import Hush.Generator
import Mathlib.Data.LawfulXor.Basic
import Mathlib.Logic.Function.Iterate

/-!
# Draws and their reversal

A draw loses nothing: the state before it is worked out from the state after it, one word at a time.
So two states never meet, however many draws follow. The state of four zeros, out of which nothing
but zeros is drawn, is left by no draw and reached by none, and no seed starts there.
-/
namespace Hush
namespace Generator

/-! ### A draw in bits -/

theorem toBitVec_rotateLeft {k : UInt64} (hpos : 0 < k.toNat) (hlt : k.toNat < 64) (x : UInt64) :
    (rotateLeft x k).toBitVec = x.toBitVec.rotateLeft k.toNat := by
  have hrest : (64 - k).toNat = 64 - k.toNat := by
    rw [UInt64.toNat_sub_of_le _ _ (UInt64.le_iff_toNat_le.mpr (Nat.le_of_lt hlt))]
    rfl
  rw [rotateLeft, BitVec.rotateLeft_def, Nat.mod_eq_of_lt hlt, UInt64.toBitVec_or]
  congr 1
  · apply BitVec.eq_of_toNat_eq
    rw [UInt64.toNat_toBitVec, UInt64.toNat_shiftLeft, Nat.mod_eq_of_lt hlt,
      BitVec.toNat_shiftLeft]
    rfl
  · apply BitVec.eq_of_toNat_eq
    rw [UInt64.toNat_toBitVec, UInt64.toNat_shiftRight, hrest, Nat.mod_eq_of_lt (by omega),
      BitVec.toNat_ushiftRight]
    rfl

/-- The state after a draw, in words of 64 bits that are turned by 7, 13 and 37 places. -/
theorem next_eq_ofBitVec (g : Generator) :
    let e := g.a.toBitVec - g.b.toBitVec.rotateLeft 7
    let a := g.b.toBitVec ^^^ g.c.toBitVec.rotateLeft 13
    g.next = ⟨.ofBitVec a, .ofBitVec (g.c.toBitVec + g.d.toBitVec.rotateLeft 37),
      .ofBitVec (g.d.toBitVec + e), .ofBitVec (e + a)⟩ := by
  have hb : (rotateLeft g.b 7).toBitVec = g.b.toBitVec.rotateLeft 7 :=
    toBitVec_rotateLeft (by decide) (by decide) g.b
  have hc : (rotateLeft g.c 13).toBitVec = g.c.toBitVec.rotateLeft 13 :=
    toBitVec_rotateLeft (by decide) (by decide) g.c
  have hd : (rotateLeft g.d 37).toBitVec = g.d.toBitVec.rotateLeft 37 :=
    toBitVec_rotateLeft (by decide) (by decide) g.d
  rw [← hb, ← hc, ← hd]
  rfl

/-! ### The state before a draw -/

/-- The state that a draw came from. What the draw made of the old first word is the last word less
the first, and behind it each old word follows from those already found. No turn is undone: it is
made again, of the word it was made of. -/
def back (g : Generator) : Generator :=
  let e := g.d - g.a
  let d := g.c - e
  let c := g.b - rotateLeft d 37
  let b := g.a ^^^ rotateLeft c 13
  ⟨e + rotateLeft b 7, b, c, d⟩

theorem back_next (g : Generator) : g.next.back = g := by
  have he : g.next.d - g.next.a = g.a - rotateLeft g.b 7 := UInt64.add_sub_cancel _ _
  have hd : g.next.c - (g.a - rotateLeft g.b 7) = g.d := UInt64.add_sub_cancel _ _
  have hc : g.next.b - rotateLeft g.d 37 = g.c := UInt64.add_sub_cancel _ _
  have hb : g.next.a ^^^ rotateLeft g.c 13 = g.b := xor_cancel_right _ _
  simp only [back, he, hd, hc, hb, UInt64.sub_add_cancel]

theorem next_back (g : Generator) : g.back.next = g := by
  have he : g.back.a - rotateLeft g.back.b 7 = g.d - g.a := UInt64.add_sub_cancel _ _
  have ha : g.back.b ^^^ rotateLeft g.back.c 13 = g.a := xor_cancel_right _ _
  have hb : g.back.c + rotateLeft g.back.d 37 = g.b := UInt64.sub_add_cancel _ _
  have hc : g.back.d + (g.d - g.a) = g.c := UInt64.sub_add_cancel _ _
  simp only [next, he, ha, hb, hc, UInt64.sub_add_cancel]

theorem next_bijective : Function.Bijective next :=
  Function.bijective_iff_has_inverse.mpr ⟨back, back_next, next_back⟩

theorem advance_eq_iterate (n : Nat) : advance n = next^[n] := by
  induction n with
  | zero => rfl
  | succ n ih =>
    funext g
    rw [advance, ih, Function.iterate_succ_apply]

theorem draws_eq_map_iterate (n : Nat) (g : Generator) :
    draws n g = (List.range n).map fun k => (next^[k + 1] g).d := by
  induction n generalizing g with
  | zero => rfl
  | succ n ih =>
    rw [draws_succ, ih, List.range_succ_eq_map, List.map_cons, List.map_map]
    rfl

theorem seeded_eq_iterate (seed : UInt64) :
    seeded seed = next^[20] ⟨0xf1ea5eed, seed, seed, seed⟩ := by
  rw [seeded, advance_eq_iterate]
  rfl

theorem advance_bijective (n : Nat) : Function.Bijective (advance n) := by
  rw [advance_eq_iterate]
  exact next_bijective.iterate n

/-! ### The state of four zeros -/

def still : Generator := ⟨0, 0, 0, 0⟩

theorem next_still : still.next = still := by decide

theorem advance_still (n : Nat) : advance n still = still := by
  rw [advance_eq_iterate]
  exact Function.iterate_fixed next_still n

theorem draws_still (n : Nat) : draws n still = List.replicate n 0 := by
  induction n with
  | zero => rfl
  | succ n ih =>
    rw [draws_succ, next_still, ih, List.replicate_succ]
    rfl

/-- Draws lead to the four zeros from nowhere else. -/
theorem advance_eq_still_iff (n : Nat) (g : Generator) : advance n g = still ↔ g = still := by
  have h := (advance_bijective n).injective.eq_iff (a := g) (b := still)
  rwa [advance_still] at h

/-! ### Seeds -/

theorem advance_seeded_eq_iff (n : Nat) (first second : UInt64) :
    advance n (seeded first) = advance n (seeded second) ↔ first = second := by
  rw [(advance_bijective n).injective.eq_iff, seeded, seeded,
    (advance_bijective warmupDraws).injective.eq_iff]
  simp

theorem advance_seeded_ne_still (n : Nat) (seed : UInt64) : advance n (seeded seed) ≠ still := by
  have hfirst : seedWord ≠ 0 := by decide
  rw [Ne, advance_eq_still_iff, seeded, advance_eq_still_iff]
  intro h
  exact hfirst (congrArg Generator.a h)

end Generator

end Hush
