import Hush.Silence.Source

/-!
# Filling one buffer

When a fill goes through, and what it then leaves behind. A run of samples is cut at any place by
carrying the last draw over, and that is all that one fill hands to the next.
-/
namespace Hush

theorem Format.byteWidth_pos {f : Format} {l : Layout} (h : f.layout? = some l) :
    0 < l.byteWidth := by
  cases f <;> cases h <;> decide

namespace Silence

/-- Bytes that frames take in a layout, however many that is. -/
def extent (l : Layout) (frames : Nat) : Nat := frames * Format.outputChannels * l.byteWidth

@[simp] theorem extent_zero (l : Layout) : extent l 0 = 0 := by simp [extent]

theorem extent_add (l : Layout) (m n : Nat) : extent l (m + n) = extent l m + extent l n := by
  simp [extent, Nat.add_mul]

/-- The length is worked out in two products, each of which has to fit a word. The first never
fails alone, since a slot is one byte at least. -/
theorem bytesForFrames_of_layout {f : Format} {l : Layout} (h : f.layout? = some l)
    (frames : Nat) :
    f.bytesForFrames frames =
      .ok (if extent l frames < sizeLimit then some (extent l frames) else none) := by
  have hl : f.layout = .ok l := (Format.layout_eq_ok_iff f l).mpr h
  have hsamples : frames * Format.outputChannels ≤ extent l frames :=
    Nat.le_mul_of_pos_right _ (Format.byteWidth_pos h)
  unfold Format.bytesForFrames
  by_cases hs : frames * Format.outputChannels < sizeLimit
  · simp only [Format.sized, if_pos hs, hl]
    rfl
  · have hlong : ¬ extent l frames < sizeLimit := by omega
    simp only [Format.sized, if_neg hs, if_neg hlong]

theorem requiredLength_of_layout {f : Format} {l : Layout} (h : f.layout? = some l)
    (frames : Nat) :
    requiredLength frames f =
      if extent l frames < sizeLimit then .ok (extent l frames)
      else .error (.sizeOverflow frames f) := by
  unfold requiredLength
  rw [bytesForFrames_of_layout h]
  by_cases hfit : extent l frames < sizeLimit
  · rw [if_pos hfit, if_pos hfit]
    rfl
  · rw [if_neg hfit, if_neg hfit]
    rfl

/-- The bytes worked out from a block of draws, when `continuation` was the draw before it. -/
def rendered (l : Layout) (dither : Bool) (continuation : Int) (block : List UInt64) :
    List UInt8 :=
  bytes l (samples l dither continuation (block.map Generator.signedDraw))

/-- The draw to go on from after a block. -/
def carried (continuation : Int) (block : List UInt64) : Int :=
  (block.map Generator.signedDraw).getLast?.getD continuation

/-- What a fill leaves behind that goes through. -/
def filled (g : Generator) (buffer : List UInt8) (frames : Nat) (f : Format) (l : Layout)
    (dither : Bool) (continuation : Int) : Filled :=
  let block := g.draws (frames * Format.outputChannels)
  ⟨rendered l dither continuation block ++ buffer.drop (extent l frames),
    carried continuation block, g.advance (frames * Format.outputChannels),
    if frames = 0 then [] else [generated frames f dither]⟩

/-- A fill is at fault exactly when its bytes do not fit a word or the buffer. No frames are
no exception from what else is left behind. -/
theorem fill_of_layout {f : Format} {l : Layout} (h : f.layout? = some l) (g : Generator)
    (buffer : List UInt8) (frames : Nat) (dither : Bool) (continuation : Int) :
    fill g buffer frames f dither continuation =
      if sizeLimit ≤ extent l frames then .error (.sizeOverflow frames f)
      else if buffer.length < extent l frames then
        .error (.shortBuffer buffer.length frames f (extent l frames))
      else .ok (filled g buffer frames f l dither continuation) := by
  have hl : f.layout = .ok l := (Format.layout_eq_ok_iff f l).mpr h
  simp only [fill, hl, requiredLength_of_layout h, bind, Except.bind]
  by_cases hfit : extent l frames < sizeLimit
  · rw [if_pos hfit, if_neg (Nat.not_le.mpr hfit)]
    by_cases hshort : buffer.length < extent l frames
    · simp [hshort, throw, throwThe, MonadExceptOf.throw]
    · by_cases hzero : frames = 0
      · simp [hzero, filled, rendered, carried, bytes, samples, pure, Except.pure]
      · simp [hshort, hzero, filled, rendered, carried, pure, Except.pure]
  · rw [if_neg hfit, if_pos (Nat.not_lt.mp hfit)]

theorem fill_of_no_layout {f : Format} (h : f.layout? = none) (g : Generator)
    (buffer : List UInt8) (frames : Nat) (dither : Bool) (continuation : Int) :
    fill g buffer frames f dither continuation = .error (.noLayout f) := by
  simp [fill, Format.layout, h, bind, Except.bind]

/-- A fill goes through exactly when its format has a layout and its bytes fit a word and the
buffer. -/
theorem fill_eq_ok_iff (g : Generator) (buffer : List UInt8) (frames : Nat) (f : Format)
    (dither : Bool) (continuation : Int) (out : Filled) :
    fill g buffer frames f dither continuation = .ok out ↔
      ∃ l, f.layout? = some l ∧ extent l frames < sizeLimit ∧
        extent l frames ≤ buffer.length ∧ out = filled g buffer frames f l dither continuation := by
  cases h : f.layout? with
  | none => simp [fill_of_no_layout h]
  | some l =>
    rw [fill_of_layout h]
    constructor
    · intro hout
      split at hout
      · cases hout
      · split at hout
        · cases hout
        · cases hout
          exact ⟨l, rfl, by omega, by omega, rfl⟩
    · rintro ⟨_, hsame, hfit, hlong, rfl⟩
      cases hsame
      rw [if_neg (by omega), if_neg (by omega)]

/-- What a fill leaves behind that went through, when the layout is known. -/
theorem eq_filled_of_fill {g : Generator} {buffer : List UInt8} {frames : Nat} {f : Format}
    {l : Layout} (hl : f.layout? = some l) {dither : Bool} {continuation : Int} {out : Filled}
    (h : fill g buffer frames f dither continuation = .ok out) :
    out = filled g buffer frames f l dither continuation := by
  obtain ⟨m, hm, -, -, hout⟩ := (fill_eq_ok_iff _ _ _ _ _ _ _).mp h
  cases Option.some.inj (hl.symm.trans hm)
  exact hout

/-! ### Runs of samples -/

@[simp] theorem samples_cons (l : Layout) (dither : Bool) (previous draw : Int)
    (draws : List Int) :
    samples l dither previous (draw :: draws) =
      sample l dither draw previous :: samples l dither draw draws := rfl

@[simp] theorem length_samples (l : Layout) (dither : Bool) (previous : Int) (draws : List Int) :
    (samples l dither previous draws).length = draws.length := by
  simp [samples]

/-- A run is cut anywhere by carrying the last draw over. -/
theorem samples_append (l : Layout) (dither : Bool) (previous : Int) (xs ys : List Int) :
    samples l dither previous (xs ++ ys) =
      samples l dither previous xs ++ samples l dither (xs.getLast?.getD previous) ys := by
  induction xs generalizing previous with
  | nil => rfl
  | cons x xs ih => simp [ih, List.getLast?_cons]

theorem bytes_append (l : Layout) (xs ys : List Int) :
    bytes l (xs ++ ys) = bytes l xs ++ bytes l ys := by
  simp [bytes]

@[simp] theorem length_bytes (l : Layout) (run : List Int) :
    (bytes l run).length = run.length * l.byteWidth := by
  induction run with
  | nil => simp [bytes]
  | cons x xs ih =>
    have hx : bytes l (x :: xs) = Pcm.slot l x ++ bytes l xs := rfl
    rw [hx, List.length_append, ih, Pcm.length_slot, List.length_cons, Nat.add_mul]
    omega

@[simp] theorem rendered_nil (l : Layout) (dither : Bool) (continuation : Int) :
    rendered l dither continuation [] = [] := rfl

@[simp] theorem carried_nil (continuation : Int) : carried continuation [] = continuation := rfl

@[simp] theorem length_rendered (l : Layout) (dither : Bool) (continuation : Int)
    (block : List UInt64) :
    (rendered l dither continuation block).length = block.length * l.byteWidth := by
  simp [rendered]

theorem rendered_append (l : Layout) (dither : Bool) (continuation : Int)
    (xs ys : List UInt64) :
    rendered l dither continuation (xs ++ ys) =
      rendered l dither continuation xs ++ rendered l dither (carried continuation xs) ys := by
  simp only [rendered, carried, List.map_append, samples_append, bytes_append]

theorem carried_append (continuation : Int) (xs ys : List UInt64) :
    carried continuation (xs ++ ys) = carried (carried continuation xs) ys := by
  cases hy : ys.getLast? <;> simp [carried, hy]

/-! ### Streams -/

namespace Stream

/-- The layout of a stream's format, which every stream has. -/
def layout (s : Stream) : Layout := s.format.layout?.get s.concrete

@[simp] theorem layout_eq (s : Stream) : s.format.layout? = some s.layout :=
  (Option.some_get s.concrete).symm

/-- The frames fit a word, and the buffer holds them. -/
def Holds (s : Stream) (buffer : List UInt8) (frames : Nat) : Prop :=
  extent s.layout frames < sizeLimit ∧ extent s.layout frames ≤ buffer.length

/-- What a stream leaves behind when its fill goes through. -/
def filled (s : Stream) (g : Generator) (buffer : List UInt8) (frames : Nat) : Filled :=
  let out := Silence.filled g buffer frames s.format s.layout s.dither s.continuation
  ⟨{ s with continuation := out.continuation }, extent s.layout frames, out.buffer,
    out.generator, out.events⟩

theorem fill_of_holds {s : Stream} {buffer : List UInt8} {frames : Nat}
    (h : s.Holds buffer frames) (g : Generator) :
    s.fill g buffer frames = .ok (s.filled g buffer frames) := by
  have hout := (fill_eq_ok_iff g buffer frames s.format s.dither s.continuation _).mpr
    ⟨s.layout, s.layout_eq, h.1, h.2, rfl⟩
  simp only [fill, hout, bufferLength, requiredLength_of_layout s.layout_eq, if_pos h.1, bind,
    Except.bind, pure, Except.pure, filled]

/-- A fill for a stream that went through found room, and left what such a fill leaves. -/
theorem holds_of_fill {s : Stream} {g : Generator} {buffer : List UInt8} {frames : Nat}
    {out : Silence.Filled}
    (h : Silence.fill g buffer frames s.format s.dither s.continuation = .ok out) :
    s.Holds buffer frames ∧
      out = Silence.filled g buffer frames s.format s.layout s.dither s.continuation := by
  have hout := eq_filled_of_fill s.layout_eq h
  obtain ⟨l, hl, hfit, hlong, -⟩ := (fill_eq_ok_iff _ _ _ _ _ _ _).mp h
  cases Option.some.inj (s.layout_eq.symm.trans hl)
  exact ⟨⟨hfit, hlong⟩, hout⟩

theorem fill_of_error {s : Stream} {g : Generator} {buffer : List UInt8} {frames : Nat} {e : Fault}
    (h : Silence.fill g buffer frames s.format s.dither s.continuation = .error e) :
    s.fill g buffer frames = .error e := by
  simp [fill, h, bind, Except.bind]

/-- What is wrong with frames that the buffer does not hold. Dither has no part in it. -/
def fault (s : Stream) (buffer : List UInt8) (frames : Nat) : Fault :=
  if sizeLimit ≤ extent s.layout frames then .sizeOverflow frames s.format
  else .shortBuffer buffer.length frames s.format (extent s.layout frames)

theorem fill_eq_fault {s : Stream} {buffer : List UInt8} {frames : Nat}
    (h : ¬ s.Holds buffer frames) (g : Generator) :
    s.fill g buffer frames = .error (s.fault buffer frames) := by
  apply fill_of_error
  rw [fill_of_layout s.layout_eq, fault]
  by_cases hfit : sizeLimit ≤ extent s.layout frames
  · rw [if_pos hfit, if_pos hfit]
  · have hshort : buffer.length < extent s.layout frames :=
      Nat.lt_of_not_le fun hlong => h ⟨Nat.lt_of_not_le hfit, hlong⟩
    rw [if_neg hfit, if_neg hfit, if_pos hshort]

theorem fill_of_not_holds {s : Stream} {buffer : List UInt8} {frames : Nat}
    (h : ¬ s.Holds buffer frames) (g : Generator) :
    ∃ e, s.fill g buffer frames = .error e := ⟨_, fill_eq_fault h g⟩

end Stream
end Silence
end Hush
