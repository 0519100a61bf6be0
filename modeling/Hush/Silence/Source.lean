import Hush.Silence

/-!
# Shared sources

One generator, and the streams that draw from it. Every call holds the generator from its first
draw to its last, so a run of calls is a sequence of steps, and each step takes the next block of
draws.
-/
namespace Hush.Silence

/-- A generator together with the streams made on it, the oldest first. -/
structure Source where
  generator : Generator
  streams : List Stream

namespace Source

/-- Where events about the generator come from. -/
def target : String := "rustair::audio::dither"

def seeded (seed : UInt64) : Source := ⟨.seeded seed, []⟩

inductive Reading where
  | word | number
  deriving DecidableEq, Repr

def Reading.value : Reading → UInt64 → Int
  | .word, w => w.toNat
  | .number, w => Generator.signedDraw w

/-- What can be asked of a source in one step. Draws made one after another while the generator is
held are one step, each read as it is asked for. -/
inductive Call where
  | reseed (seed : UInt64)
  | draw (readings : List Reading)
  | zeroFrames (buffer : List UInt8) (frames : Nat) (format : Format) (dither : Bool)
      (continuation : Int)
  | addStream (format : Format) (dither : Bool)
  | fill (stream : Nat) (buffer : List UInt8) (frames : Nat)
  | setDither (stream : Nat) (dither : Bool)

inductive Reply where
  | done
  | draws (values : List Int)
  | filled (buffer : List UInt8) (continuation : Int)
  | added (stream : Nat)
  | streamFilled (written : Nat) (buffer : List UInt8) (continuation : Int)

/-- A step that was carried out. -/
structure Step where
  source : Source
  reply : Reply
  events : List Log.Event

/-- One call. A call that is at fault leaves the source as it was. -/
def step (s : Source) : Call → Except Fault Step
  | .reseed seed =>
    .ok ⟨{ s with generator := .seeded seed }, .done,
      [.plain .debug target "Reseeding dither generator"]⟩
  | .draw readings =>
    .ok ⟨{ s with generator := s.generator.advance readings.length },
      .draws (List.zipWith Reading.value readings (s.generator.draws readings.length)), []⟩
  | .zeroFrames buffer frames f dither continuation => do
    let out ← Silence.fill s.generator buffer frames f dither continuation
    return ⟨{ s with generator := out.generator }, .filled out.buffer out.continuation,
      out.events⟩
  | .addStream f dither => do
    let stream ← Stream.create f dither
    return ⟨{ s with streams := s.streams ++ [stream] }, .added s.streams.length, []⟩
  | .fill i buffer frames =>
    match s.streams[i]? with
    | none => .ok ⟨s, .done, []⟩
    | some stream => do
      let out ← stream.fill s.generator buffer frames
      return ⟨⟨out.generator, s.streams.set i out.stream⟩,
        .streamFilled out.written out.buffer out.stream.continuation, out.events⟩
  | .setDither i dither =>
    match s.streams[i]? with
    | none => .ok ⟨s, .done, []⟩
    | some stream =>
      .ok ⟨{ s with streams := s.streams.set i (stream.setDither dither) }, .done, []⟩

/-- The source after a run of calls; those at fault change nothing. -/
def run (s : Source) (calls : List Call) : Source :=
  calls.foldl (fun s call => match s.step call with
    | .ok out => out.source
    | .error _ => s) s

end Source
end Hush.Silence
