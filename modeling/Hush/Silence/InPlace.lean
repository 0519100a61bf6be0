import Hush.Silence.Source

/-!
# Filling in place

A fill told as it happens: the buffer and the generator are changed slot by slot, and a stop on the
way leaves behind whatever had been changed by then. Nothing here says that a call at fault changes
nothing; that follows from the order in which things are looked at.
-/
namespace Hush.Silence

/-- Why work is not brought to its end: a fault that is looked for, a slot that is cut off by the
end of the buffer, or a word that has more bytes than the slot. -/
inductive Stop where
  | fault (cause : Fault)
  | slotTooShort
  | wordTooLong
  deriving DecidableEq, Repr

/-- Work that changes its surroundings as it goes on. What it has changed stays changed when it is
stopped. -/
abbrev Work (σ α : Type) := ExceptT Stop (StateM σ) α

namespace Work

variable {σ α β : Type}

/-- How work ends, and the surroundings that it leaves. -/
def runOn (w : Work σ α) (s : σ) : Except Stop α × σ := w.run.run s

/-- Goes on with what was asked for, or stops at its fault. -/
def check (x : Except Fault α) : Work σ α := ExceptT.mk (pure (x.mapError .fault))

theorem runOn_bind (w : Work σ α) (further : α → Work σ β) (s : σ) :
    (w >>= further).runOn s = match w.runOn s with
      | (.ok a, t) => (further a).runOn t
      | (.error stop, t) => (.error stop, t) := by
  simp only [runOn, ExceptT.run_bind, StateT.run_bind]
  rcases StateT.run (ExceptT.run w) s with ⟨_ | _, t⟩ <;> rfl

theorem runOn_bind_of_ok {w : Work σ α} {s t : σ} {a : α} (h : w.runOn s = (.ok a, t))
    (further : α → Work σ β) : (w >>= further).runOn s = (further a).runOn t := by
  rw [runOn_bind, h]

theorem runOn_bind_of_error {w : Work σ α} {s t : σ} {stop : Stop}
    (h : w.runOn s = (.error stop, t)) (further : α → Work σ β) :
    (w >>= further).runOn s = (.error stop, t) := by
  rw [runOn_bind, h]

@[simp] theorem runOn_pure (a : α) (s : σ) : (pure a : Work σ α).runOn s = (.ok a, s) := rfl

@[simp] theorem runOn_check_ok (a : α) (s : σ) :
    (check (.ok a) : Work σ α).runOn s = (.ok a, s) := rfl

@[simp] theorem runOn_check_error (e : Fault) (s : σ) :
    (check (.error e) : Work σ α).runOn s = (.error (.fault e), s) := rfl

@[simp] theorem runOn_get (s : σ) : (get : Work σ σ).runOn s = (.ok s, s) := rfl

@[simp] theorem runOn_modify (change : σ → σ) (s : σ) :
    (modify change : Work σ Unit).runOn s = (.ok (), change s) := rfl

@[simp] theorem runOn_lift (x : Except Stop α) (s : σ) :
    (liftM x : Work σ α).runOn s = (x, s) := by
  cases x <;> rfl

end Work

/-- What a fill works on: the buffer, the generator that it holds, and the events made so far. -/
structure Workplace where
  buffer : List UInt8
  generator : Generator
  events : List Log.Event
  deriving DecidableEq, Repr

/-- A word as `width` bytes, if it has no more and they are no more than a machine word's. -/
def wordBytes (order : ByteOrder) (width n : Nat) : Except Stop (List UInt8) :=
  if n < Nat.pow 256 width ∧ width ≤ 8 then .ok (Pcm.orderedBytes order width n)
  else .error .wordTooLong

/-- The slot with a sample written at its start. -/
def pack (l : Layout) (value : Int) (slot : List UInt8) : Except Stop (List UInt8) := do
  if slot.length < l.byteWidth then
    throw .slotTooShort
  let written ← wordBytes l.byteOrder l.byteWidth (Pcm.storedWord l value)
  return written ++ slot.drop l.byteWidth

def drawInPlace : Work Workplace Int := do
  modify fun p => { p with generator := p.generator.next }
  return Generator.signedDraw (← get).generator.d

/-- Writes a sample into the slot from byte `start` on. -/
def packInPlace (l : Layout) (start : Nat) (value : Int) : Work Workplace Unit := do
  let p ← get
  let packed ← pack l value ((p.buffer.drop start).take l.byteWidth)
  modify fun p =>
    { p with buffer := p.buffer.take start ++ packed ++ p.buffer.drop (start + l.byteWidth) }

/-- Draws for `count` slots from byte `start` on, one after another, and writes each sample before
the next draw. The last draw is handed out. -/
def writeSlots (l : Layout) (dither : Bool) :
    (count start : Nat) → (previous : Int) → Work Workplace Int
  | 0, _, previous => pure previous
  | n + 1, start, previous => do
    let draw ← drawInPlace
    packInPlace l start (sample l dither draw previous)
    writeSlots l dither n (start + l.byteWidth) draw

/-- Writes frames of silence at the start of the buffer and hands out the draw to go on from. -/
def fillInPlace (frames : Nat) (f : Format) (dither : Bool) (continuation : Int) :
    Work Workplace Int := do
  let l ← Work.check f.layout
  let needed ← Work.check (requiredLength frames f)
  let length := (← get).buffer.length
  if length < needed then
    Work.check (.error (.shortBuffer length frames f needed))
  if frames = 0 then
    return continuation
  let last ← writeSlots l dither (needed / l.byteWidth) 0 continuation
  modify fun p => { p with events := p.events ++ [generated frames f dither] }
  return last

/-- A workplace, and the stream that a fill is made for. -/
structure Station extends Workplace where
  stream : Stream

/-- Work at the workplace of a station. -/
def Work.atStation {α : Type} (w : Work Workplace α) : Work Station α :=
  ExceptT.mk fun s =>
    let (outcome, place) := w.runOn s.toWorkplace
    (outcome, { s with toWorkplace := place })

theorem Work.runOn_atStation {α : Type} (w : Work Workplace α) (s : Station) :
    w.atStation.runOn s =
      ((w.runOn s.toWorkplace).1, { s with toWorkplace := (w.runOn s.toWorkplace).2 }) := rfl

/-- Writes frames for the stream of the station, which goes on from their last draw then, and hands
out how many bytes they took. -/
def Stream.fillInPlace (frames : Nat) : Work Station Nat := do
  let s := (← get).stream
  let last ← (Silence.fillInPlace frames s.format s.dither s.continuation).atStation
  modify fun t => { t with stream := { t.stream with continuation := last } }
  Work.check ((← get).stream.bufferLength frames)

namespace Source

/-- A call as it was performed: its answer, and the source, buffer and events that it left, be it
stopped or not. -/
structure Performed where
  answer : Except Stop Reply
  source : Source
  buffer : List UInt8
  events : List Log.Event

/-- What a fill for a stream answers. -/
def streamReply (frames : Nat) : Work Station Reply := do
  let written ← Stream.fillInPlace frames
  let s ← get
  return .streamFilled written s.buffer s.stream.continuation

def Call.buffer : Call → List UInt8
  | .zeroFrames buffer _ _ _ _ => buffer
  | .fill _ buffer _ => buffer
  | _ => []

/-- One call, with fills made in place. -/
def perform (s : Source) : Call → Performed
  | .zeroFrames buffer frames f dither continuation =>
    let (outcome, left) :=
      (fillInPlace frames f dither continuation).runOn ⟨buffer, s.generator, []⟩
    ⟨outcome.map fun last => .filled left.buffer last, { s with generator := left.generator },
      left.buffer, left.events⟩
  | .fill i buffer frames =>
    match s.streams[i]? with
    | none => ⟨.ok .done, s, buffer, []⟩
    | some stream =>
      let (answer, left) := (streamReply frames).runOn ⟨⟨buffer, s.generator, []⟩, stream⟩
      ⟨answer, ⟨left.generator, s.streams.set i left.stream⟩, left.buffer, left.events⟩
  | c =>
    match s.step c with
    | .ok out => ⟨.ok out.reply, out.source, c.buffer, out.events⟩
    | .error e => ⟨.error (.fault e), s, c.buffer, []⟩

/-- The calls of a run, each as it was performed. -/
def performEach (s : Source) : List Call → List (Call × Performed)
  | [] => []
  | c :: calls => (c, s.perform c) :: (s.perform c).source.performEach calls

/-- The source that a run of calls leaves. -/
def leftBy (s : Source) (calls : List Call) : Source :=
  calls.foldl (fun s c => (s.perform c).source) s

end Source
end Hush.Silence
