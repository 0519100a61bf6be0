import Hush.Proofs.Silence.SharedSource
import Mathlib.Algebra.GroupWithZero.Nat

/-!
# Cutting a run of frames

Frames written by several fills are the same bytes as those written by one, as long as each fill
goes on from the generator and the draw that the one before left. This holds wherever the run is
cut, also into pieces without frames.
-/
namespace Hush.Silence

/-- Bytes of silence, and the draw and the generator that the next bytes go on from. -/
structure Stretch where
  written : List UInt8
  continuation : Int
  generator : Generator

namespace Stretch

/-- The stretch of a number of frames. -/
def ofFrames (l : Layout) (dither : Bool) (g : Generator) (continuation : Int) (frames : Nat) :
    Stretch :=
  let block := g.draws (frames * Format.outputChannels)
  ⟨rendered l dither continuation block, carried continuation block,
    g.advance (frames * Format.outputChannels)⟩

@[simp] theorem ofFrames_zero (l : Layout) (dither : Bool) (g : Generator) (continuation : Int) :
    ofFrames l dither g continuation 0 = ⟨[], continuation, g⟩ := by
  simp [ofFrames]

/-- A stretch is cut after any number of frames. -/
theorem ofFrames_add (l : Layout) (dither : Bool) (g : Generator) (continuation : Int)
    (m n : Nat) :
    let first := ofFrames l dither g continuation m
    let rest := ofFrames l dither first.generator first.continuation n
    ofFrames l dither g continuation (m + n) =
      { rest with written := first.written ++ rest.written } := by
  simp only [ofFrames, Nat.add_mul, Generator.draws_add, Generator.advance_add, rendered_append,
    carried_append]

end Stretch

/-- A buffer, and the number of frames to be written to it. -/
structure Part where
  buffer : List UInt8
  frames : Nat

def total (parts : List Part) : Nat := (parts.map (·.frames)).sum

@[simp] theorem total_nil : total [] = 0 := rfl

@[simp] theorem total_cons (p : Part) (parts : List Part) :
    total (p :: parts) = p.frames + total parts := by
  simp [total]

/-- What a fill writes is a stretch, put at the start of the buffer. -/
theorem ofFrames_eq_filled (g : Generator) (buffer : List UInt8) (frames : Nat) (f : Format)
    (l : Layout) (dither : Bool) (continuation : Int) :
    let out := filled g buffer frames f l dither continuation
    Stretch.ofFrames l dither g continuation frames =
      ⟨out.buffer.take (extent l frames), out.continuation, out.generator⟩ := by
  have hlen : extent l frames = (rendered l dither continuation
      (g.draws (frames * Format.outputChannels))).length := by
    simp [extent]
  simp only [Stretch.ofFrames, filled, hlen, List.take_left]

/-- Fills that follow each other, each with a buffer of its own: all bytes they write, and what the
last of them leaves. -/
def fillEach (f : Format) (dither : Bool) (g : Generator) (continuation : Int) :
    List Part → Except Fault Stretch
  | [] => .ok ⟨[], continuation, g⟩
  | p :: parts => do
    let out ← fill g p.buffer p.frames f dither continuation
    let needed ← requiredLength p.frames f
    let rest ← fillEach f dither out.generator out.continuation parts
    return { rest with written := out.buffer.take needed ++ rest.written }

theorem fillEach_eq_ofFrames {f : Format} {l : Layout} (hl : f.layout? = some l) (dither : Bool)
    (g : Generator) (continuation : Int) (parts : List Part)
    (hfit : extent l (total parts) < sizeLimit)
    (hparts : ∀ p ∈ parts, extent l p.frames ≤ p.buffer.length) :
    fillEach f dither g continuation parts =
      .ok (.ofFrames l dither g continuation (total parts)) := by
  induction parts generalizing g continuation with
  | nil => simp [fillEach]
  | cons p parts ih =>
    rw [total_cons, extent_add] at hfit
    have hp : extent l p.frames < sizeLimit := by omega
    have hout := (fill_eq_ok_iff g p.buffer p.frames f dither continuation _).mpr
      ⟨l, hl, hp, hparts p List.mem_cons_self, rfl⟩
    have hrest := fun g c => ih g c (by omega) fun q hq => hparts q (List.mem_cons_of_mem _ hq)
    have hfirst := ofFrames_eq_filled g p.buffer p.frames f l dither continuation
    simp only [fillEach, hout, requiredLength_of_layout hl, if_pos hp, hrest, bind, Except.bind,
      pure, Except.pure, total_cons, Stretch.ofFrames_add, hfirst]

namespace Source

/-- The bytes that a fill has written, of those that the buffer holds. -/
def Reply.written : Reply → List UInt8
  | .streamFilled length buffer _ => buffer.take length
  | _ => []

/-- Fills of one stream that follow each other with no other call between them: all bytes they
write, and the source after them. -/
def fillInTurn (s : Source) (i : Nat) : List Part → Except Fault (List UInt8 × Source)
  | [] => .ok ([], s)
  | p :: parts => do
    let out ← s.step (.fill i p.buffer p.frames)
    let (rest, last) ← out.source.fillInTurn i parts
    return (out.reply.written ++ rest, last)

theorem written_replyFrom (stream : Stream) (g : Generator) (buffer : List UInt8)
    (frames : Nat) :
    (replyFrom stream buffer frames (g.draws (frames * Format.outputChannels))).written =
      (Stretch.ofFrames stream.layout stream.dither g stream.continuation frames).written := by
  rw [ofFrames_eq_filled g buffer frames stream.format]
  rfl

theorem fillInTurn_eq_ofFrames {s : Source} {i : Nat} {stream : Stream}
    (hi : s.streams[i]? = some stream) (parts : List Part)
    (hfit : extent stream.layout (total parts) < sizeLimit)
    (hparts : ∀ p ∈ parts, extent stream.layout p.frames ≤ p.buffer.length) :
    let stretch :=
      Stretch.ofFrames stream.layout stream.dither s.generator stream.continuation (total parts)
    s.fillInTurn i parts =
      .ok (stretch.written, ⟨stretch.generator,
        s.streams.set i { stream with continuation := stretch.continuation }⟩) := by
  induction parts generalizing s stream with
  | nil => simp [fillInTurn, set_of_stream hi]
  | cons p parts ih =>
    rw [total_cons, extent_add] at hfit
    have hholds : stream.Holds p.buffer p.frames :=
      ⟨by omega, hparts p List.mem_cons_self⟩
    have hstep := step_fill_of_holds hi hholds
    obtain ⟨hlt, -⟩ := List.getElem?_eq_some_iff.mp hi
    have hnext : (s.streams.set i (stream.filled s.generator p.buffer p.frames).stream)[i]? =
        some (stream.filled s.generator p.buffer p.frames).stream := by
      simp [hlt]
    have hrest := ih (s := ⟨s.generator.advance (p.frames * Format.outputChannels), _⟩) hnext
      (by change extent stream.layout _ < _; omega)
      fun q hq => hparts q (List.mem_cons_of_mem _ hq)
    simp only [fillInTurn, hstep, hrest, bind, Except.bind, pure, Except.pure, total_cons,
      Stretch.ofFrames_add, written_replyFrom, List.set_set]
    rfl

end Source

/-- Fills that each go on from what the one before left write the bytes that one fill of all the
frames writes, and leave the same draw to go on from and the same generator. So do the fills of
one stream that no other call comes between, and they leave the same source. -/
theorem fills_join_seamlessly {f : Format} {l : Layout} (hl : f.layout? = some l)
    (parts : List Part) (whole : List UInt8) (hfit : extent l (total parts) < sizeLimit)
    (hparts : ∀ p ∈ parts, extent l p.frames ≤ p.buffer.length)
    (hwhole : extent l (total parts) ≤ whole.length) :
    (∀ g dither continuation, ∃ out,
      fill g whole (total parts) f dither continuation = .ok out ∧
      fillEach f dither g continuation parts =
        .ok ⟨out.buffer.take (extent l (total parts)), out.continuation, out.generator⟩) ∧
    (∀ (s : Source) i stream, s.streams[i]? = some stream → stream.format = f → ∃ out,
      s.step (.fill i whole (total parts)) = .ok out ∧
      s.fillInTurn i parts = .ok (out.reply.written, out.source)) := by
  constructor
  · intro g dither continuation
    have hout := (fill_eq_ok_iff g whole (total parts) f dither continuation _).mpr
      ⟨l, hl, hfit, hwhole, rfl⟩
    refine ⟨_, hout, ?_⟩
    rw [fillEach_eq_ofFrames hl dither g continuation parts hfit hparts,
      ofFrames_eq_filled g whole (total parts) f]
  · intro s i stream hi hf
    have hsame : l = stream.layout := by
      subst hf
      exact Option.some.inj (hl.symm.trans stream.layout_eq)
    subst hsame
    have hstep := Source.step_fill_of_holds hi ⟨hfit, hwhole⟩
    refine ⟨_, hstep, ?_⟩
    rw [Source.fillInTurn_eq_ofFrames hi parts hfit hparts]
    simp only [Source.written_replyFrom]
    rfl

/-- Two frames, none and one, against three at once. -/
theorem fills_join_seamlessly_three :
    let parts : List Part := [⟨List.replicate 12 0, 2⟩, ⟨[], 0⟩, ⟨List.replicate 7 0, 1⟩]
    ∀ g dither continuation, ∃ out,
      fill g (List.replicate 20 0) 3 .s24le3 dither continuation = .ok out ∧
      fillEach .s24le3 dither g continuation parts =
        .ok ⟨out.buffer.take 18, out.continuation, out.generator⟩ :=
  (fills_join_seamlessly (f := .s24le3) rfl
    [⟨List.replicate 12 0, 2⟩, ⟨[], 0⟩, ⟨List.replicate 7 0, 1⟩] (List.replicate 20 0)
    (by decide) (by decide) (by decide)).1

end Hush.Silence
