import Hush.Generator
import Hush.Log.Event
import Hush.Pcm

/-!
# Dithered silence

The signal is always zero. With dither on, each sample is offset by the difference of the low
parts of two draws that follow each other, which leaves zero or minus one once it is brought down
to the format's range. The last draw of one buffer is carried into the next, so that it does not
matter where a run of frames is cut.
-/
namespace Hush.Silence

/-- Where events about silence come from. -/
def target : String := "rustair::audio::silence"

/-- The sample of one slot, from the draw made for it and the draw before. -/
def sample (l : Layout) (dither : Bool) (draw previous : Int) : Int :=
  let grain : Int := Nat.pow 2 l.ditherShift
  let hyperSample := if dither then draw % grain - previous % grain else 0
  hyperSample / grain

/-- The samples of a run of draws, when `previous` was the draw before the first. -/
def samples (l : Layout) (dither : Bool) (previous : Int) (draws : List Int) : List Int :=
  List.zipWith (sample l dither) draws (previous :: draws)

def bytes (l : Layout) (run : List Int) : List UInt8 := run.flatMap (Pcm.slot l)

/-- Bytes needed for `frames` frames, or the fault of asking for more than a word can count. -/
def requiredLength (frames : Nat) (f : Format) : Except Fault Nat := do
  match ← f.bytesForFrames frames with
  | some n => pure n
  | none => throw (.sizeOverflow frames f)

/-- What writing silence leaves behind. -/
structure Filled where
  buffer : List UInt8
  continuation : Int
  generator : Generator
  events : List Log.Event
  deriving DecidableEq, Repr

def generated (frames : Nat) (f : Format) (dither : Bool) : Log.Event :=
  { Log.Event.plain .trace target "Generated silence" with
    fields := [("frames", toString frames), ("format", f.name),
      ("with_dither", if dither then "true" else "false")] }

/-- Writes `frames` frames of silence at the start of the buffer. Nothing is drawn for none. -/
def fill (g : Generator) (buffer : List UInt8) (frames : Nat) (f : Format) (dither : Bool)
    (continuation : Int) : Except Fault Filled := do
  let l ← f.layout
  let needed ← requiredLength frames f
  if buffer.length < needed then
    throw (.shortBuffer buffer.length frames f needed)
  if frames = 0 then
    return ⟨buffer, continuation, g, []⟩
  let count := frames * Format.outputChannels
  let drawn := (g.draws count).map Generator.signedDraw
  let written := bytes l (samples l dither continuation drawn)
  return ⟨written ++ buffer.drop needed, drawn.getLast?.getD continuation, g.advance count,
    [generated frames f dither]⟩

/-- A source of silence for one output: its format, its dither setting and the last draw it used.
Only a format with a layout makes a stream. -/
structure Stream where
  format : Format
  concrete : format.isConcrete = true
  dither : Bool
  continuation : Int

namespace Stream

/-- A new stream, which no draw precedes. -/
def create (f : Format) (dither : Bool) : Except Fault Stream :=
  if h : f.isConcrete = true then .ok ⟨f, h, dither, 0⟩ else .error (.noLayout f)

def setDither (s : Stream) (dither : Bool) : Stream := { s with dither }

/-- Bytes that `frames` frames of the stream take. -/
def bufferLength (s : Stream) (frames : Nat) : Except Fault Nat := requiredLength frames s.format

/-- What a stream leaves behind when it fills a buffer. -/
structure Filled where
  stream : Stream
  written : Nat
  buffer : List UInt8
  generator : Generator
  events : List Log.Event

/-- Writes `frames` frames and goes on from the stream's last draw. -/
def fill (s : Stream) (g : Generator) (buffer : List UInt8) (frames : Nat) :
    Except Fault Filled := do
  let out ← Silence.fill g buffer frames s.format s.dither s.continuation
  let written ← s.bufferLength frames
  return ⟨{ s with continuation := out.continuation }, written, out.buffer, out.generator,
    out.events⟩

end Stream
end Hush.Silence
