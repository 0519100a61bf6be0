import Hush.Proofs.Pcm.Slots
import Hush.Proofs.Silence.Filling

/-!
# Reading silence back

Each slot of a fill holds the sample that was worked out for it. A sample is zero or one step below
it, and what it is hangs on the depth of the format alone, not on how the format lays out its bytes.
-/
namespace Hush

namespace Silence

/-! ### Samples -/

/-- A sample is one step below zero exactly when dither is on and the low part of its draw is less
than that of the draw before. -/
theorem sample_eq_ite (l : Layout) (dither : Bool) (draw previous : Int) :
    sample l dither draw previous =
      if dither = true ∧ draw % (Nat.pow 2 l.ditherShift : Nat) <
        previous % (Nat.pow 2 l.ditherShift : Nat) then -1 else 0 := by
  have hgrain : (0 : Int) < Nat.pow 2 l.ditherShift := by
    exact_mod_cast Nat.two_pow_pos _
  unfold sample
  cases dither with
  | false => simp
  | true =>
    have hdraw := Int.emod_nonneg draw (Int.ne_of_gt hgrain)
    have hdraw' := Int.emod_lt_of_pos draw hgrain
    have hprevious := Int.emod_nonneg previous (Int.ne_of_gt hgrain)
    have hprevious' := Int.emod_lt_of_pos previous hgrain
    simp only [if_true, true_and]
    generalize draw % (Nat.pow 2 l.ditherShift : Nat) = x at *
    generalize previous % (Nat.pow 2 l.ditherShift : Nat) = y at *
    split
    · rw [Int.ediv_eq_iff_of_pos hgrain]
      omega
    · exact Int.ediv_eq_zero_of_lt (by omega) (by omega)

/-- A sample is zero, or one step below. -/
theorem sample_mem (l : Layout) (dither : Bool) (draw previous : Int) :
    sample l dither draw previous = 0 ∨ sample l dither draw previous = -1 := by
  rw [sample_eq_ite]
  split
  · exact Or.inr rfl
  · exact Or.inl rfl

theorem sample_undithered (l : Layout) (draw previous : Int) :
    sample l false draw previous = 0 := by
  simp [sample]

/-- Of a layout only the depth matters to a sample. -/
theorem sample_congr {l m : Layout} (h : l.bitDepth = m.bitDepth) (dither : Bool)
    (draw previous : Int) : sample l dither draw previous = sample m dither draw previous := by
  simp only [sample, Layout.ditherShift, h]

theorem samples_congr {l m : Layout} (h : l.bitDepth = m.bitDepth) (dither : Bool)
    (previous : Int) (draws : List Int) :
    samples l dither previous draws = samples m dither previous draws := by
  induction draws generalizing previous with
  | nil => rfl
  | cons draw draws ih => rw [samples_cons, samples_cons, sample_congr h, ih]

theorem samples_undithered (l : Layout) (previous : Int) (draws : List Int) :
    samples l false previous draws = List.replicate draws.length 0 := by
  induction draws generalizing previous with
  | nil => rfl
  | cons draw draws ih =>
    rw [samples_cons, sample_undithered, ih, List.length_cons, List.replicate_succ]

theorem mem_samples {l : Layout} {dither : Bool} {previous : Int} {draws : List Int} {x : Int}
    (hx : x ∈ samples l dither previous draws) : x = 0 ∨ x = -1 := by
  induction draws generalizing previous with
  | nil => cases hx
  | cons draw draws ih =>
    rw [samples_cons, List.mem_cons] at hx
    rcases hx with rfl | hx
    · exact sample_mem l dither draw previous
    · exact ih hx

/-! ### Slots in a run -/

/-- The slot at each place of a run holds the sample of that place. -/
theorem slot_in_bytes (l : Layout) (run : List Int) (behind : List UInt8) {k : Nat}
    (hk : k < run.length) :
    ((bytes l run ++ behind).drop (k * l.byteWidth)).take l.byteWidth = Pcm.slot l run[k] := by
  induction run generalizing k with
  | nil => cases hk
  | cons x run ih =>
    have hx : bytes l (x :: run) ++ behind = Pcm.slot l x ++ (bytes l run ++ behind) := by
      show Pcm.slot l x ++ bytes l run ++ behind = _
      rw [List.append_assoc]
    have hwidth := Pcm.length_slot l x
    cases k with
    | zero =>
      rw [hx, Nat.zero_mul, List.drop_zero, ← hwidth, List.take_left]
      rfl
    | succ k =>
      have hdrop : (Pcm.slot l x ++ (bytes l run ++ behind)).drop ((k + 1) * l.byteWidth) =
          (bytes l run ++ behind).drop (k * l.byteWidth) := by
        rw [Nat.succ_mul, Nat.add_comm, ← List.drop_drop, ← hwidth, List.drop_left]
      rw [hx, hdrop, ih (Nat.lt_of_succ_lt_succ hk)]
      rfl

/-- A sample of silence is in the range of every format. -/
theorem bmod_sample {l : Layout} (hl : l.Proper) {x : Int} (hx : x = 0 ∨ x = -1) :
    Int.bmod x (2 ^ l.bitDepth) = x := by
  have htwo : 2 ≤ 2 ^ l.bitDepth :=
    Nat.pow_le_pow_right (n := 2) (by decide) hl.depth_pos
  apply Int.bmod_eq_of_le <;> omega

/-- Reading at the place of a slot gives its sample back. -/
theorem decode_bytes {f : Format} {l : Layout} (hl : f.layout? = some l) {run : List Int}
    (hrun : ∀ x ∈ run, x = 0 ∨ x = -1) (behind : List UInt8) {k : Nat} (hk : k < run.length) :
    Pcm.decode f ((bytes l run ++ behind).drop (k * l.byteWidth)) = .ok run[k] := by
  have hproper := Format.proper hl
  have hslot := slot_in_bytes l run behind hk
  have hroom : l.byteWidth ≤ ((bytes l run ++ behind).drop (k * l.byteWidth)).length := by
    have hlength := congrArg List.length hslot
    rw [List.length_take, Pcm.length_slot] at hlength
    omega
  have hsample : Pcm.ofSlot l (Pcm.slot l run[k]) = run[k] := by
    rw [Pcm.ofSlot_slot hproper, bmod_sample hproper (hrun _ (List.getElem_mem hk))]
  rw [Pcm.decode_eq_ok hl hroom, hslot, hsample]

/-! ### The bytes of a fill -/

def sampled (g : Generator) (frames : Nat) (l : Layout) (dither : Bool) (continuation : Int) :
    List Int :=
  samples l dither continuation
    ((g.draws (frames * Format.outputChannels)).map Generator.signedDraw)

@[simp] theorem length_sampled (g : Generator) (frames : Nat) (l : Layout) (dither : Bool)
    (continuation : Int) : (sampled g frames l dither continuation).length = 2 * frames := by
  rw [sampled, length_samples, List.length_map, Generator.length_draws]
  exact Nat.mul_comm _ _

theorem sampled_congr {l m : Layout} (h : l.bitDepth = m.bitDepth) (g : Generator) (frames : Nat)
    (dither : Bool) (continuation : Int) :
    sampled g frames l dither continuation = sampled g frames m dither continuation :=
  samples_congr h dither continuation _

/-- Without dither neither the generator nor the draw before has a part in the samples. -/
theorem sampled_undithered (g : Generator) (frames : Nat) (l : Layout) (continuation : Int) :
    sampled g frames l false continuation = List.replicate (2 * frames) 0 := by
  have hlength := length_sampled g frames l false continuation
  rw [sampled, length_samples] at hlength
  rw [sampled, samples_undithered, hlength]

variable {g : Generator} {buffer : List UInt8} {frames : Nat} {f : Format} {l : Layout}
  {dither : Bool} {continuation : Int} {out : Filled}

/-- A fill leaves the slots of its samples, and behind them what was there. -/
theorem buffer_of_fill (hl : f.layout? = some l)
    (h : fill g buffer frames f dither continuation = .ok out) :
    out.buffer =
      bytes l (sampled g frames l dither continuation) ++ buffer.drop (extent l frames) := by
  rw [eq_filled_of_fill hl h]
  rfl

theorem take_extent_of_fill (hl : f.layout? = some l)
    (h : fill g buffer frames f dither continuation = .ok out) :
    out.buffer.take (extent l frames) = bytes l (sampled g frames l dither continuation) := by
  have hlength : (bytes l (sampled g frames l dither continuation)).length = extent l frames := by
    rw [length_bytes, length_sampled, extent, Nat.mul_comm 2]
    rfl
  rw [buffer_of_fill hl h, ← hlength, List.take_left]

/-- Each place of a filled buffer reads as the sample made for it. -/
theorem decode_of_fill (hl : f.layout? = some l)
    (h : fill g buffer frames f dither continuation = .ok out) {k : Nat}
    (hk : k < (sampled g frames l dither continuation).length) :
    Pcm.decode f (out.buffer.drop (k * l.byteWidth)) =
      .ok (sampled g frames l dither continuation)[k] := by
  rw [buffer_of_fill hl h]
  exact decode_bytes hl (fun x hx => mem_samples hx) _ hk

/-- At each place of a filled buffer stands the slot of the sample made for it. -/
theorem slot_of_fill (hl : f.layout? = some l)
    (h : fill g buffer frames f dither continuation = .ok out) {k : Nat}
    (hk : k < (sampled g frames l dither continuation).length) :
    (out.buffer.drop (k * l.byteWidth)).take l.byteWidth =
      Pcm.slot l (sampled g frames l dither continuation)[k] := by
  rw [buffer_of_fill hl h, slot_in_bytes l _ _ hk]

/-- What stands at each place of a filled buffer is what its sample is written as anywhere else. -/
theorem encode_of_fill (hl : f.layout? = some l)
    (h : fill g buffer frames f dither continuation = .ok out) {k : Nat}
    (hk : k < (sampled g frames l dither continuation).length) {room : List UInt8}
    (hroom : room.length = l.byteWidth) :
    Pcm.encode f room (sampled g frames l dither continuation)[k] =
      .ok ((out.buffer.drop (k * l.byteWidth)).take l.byteWidth) := by
  have hrest : room.drop l.byteWidth = [] := List.drop_of_length_le (Nat.le_of_eq hroom)
  rw [slot_of_fill hl h hk, Pcm.encode_eq_ok hl _ (Nat.le_of_eq hroom.symm), hrest, List.append_nil]

end Silence
end Hush
