/-!
# The dither generator

A small mixing generator of four machine words, not meant for secrets. A draw advances the state
and hands out the new last word; all arithmetic wraps at the word size.
-/
namespace Hush

structure Generator where
  a : UInt64
  b : UInt64
  c : UInt64
  d : UInt64
  deriving DecidableEq, Repr

namespace Generator

/-- The word turned left by `k` bits, `0 < k < 64`. -/
def rotateLeft (x k : UInt64) : UInt64 := (x <<< k) ||| (x >>> (64 - k))

/-- The state after one draw; the draw itself is its last word. -/
def next (g : Generator) : Generator :=
  let e := g.a - rotateLeft g.b 7
  let a := g.b ^^^ rotateLeft g.c 13
  ⟨a, g.c + rotateLeft g.d 37, g.d + e, e + a⟩

/-- The state after `n` draws. -/
def advance : Nat → Generator → Generator
  | 0, g => g
  | n + 1, g => advance n g.next

/-- The first word of every freshly seeded state. -/
def seedWord : UInt64 := 0xf1ea5eed

/-- Draws thrown away after seeding, so that the words are mixed before first use. -/
def warmupDraws : Nat := 20

/-- The state a seed leads to. -/
def seeded (seed : UInt64) : Generator := advance warmupDraws ⟨seedWord, seed, seed, seed⟩

/-- Draws in order, put on top of those already collected in reverse. -/
def drawsOnto : Nat → Generator → List UInt64 → List UInt64
  | 0, _, drawn => drawn.reverse
  | n + 1, g, drawn => drawsOnto n g.next (g.next.d :: drawn)

def draws (n : Nat) (g : Generator) : List UInt64 := drawsOnto n g []

theorem drawsOnto_eq (n : Nat) (g : Generator) (drawn : List UInt64) :
    drawsOnto n g drawn = drawn.reverse ++ draws n g := by
  induction n generalizing g drawn with
  | zero => simp [drawsOnto, draws]
  | succ n ih =>
    have unfolded : draws (n + 1) g = drawsOnto n g.next [g.next.d] := rfl
    rw [drawsOnto, ih, unfolded, ih]
    simp

-- Not by `rfl`: a seeded state must not be unfolded to compare it with itself.
@[simp] theorem advance_zero (g : Generator) : advance 0 g = g := by rw [advance]

@[simp] theorem draws_zero (g : Generator) : draws 0 g = [] := rfl

@[simp] theorem draws_succ (n : Nat) (g : Generator) :
    draws (n + 1) g = g.next.d :: draws n g.next := by
  have unfolded : draws (n + 1) g = drawsOnto n g.next [g.next.d] := rfl
  rw [unfolded, drawsOnto_eq]
  simp

@[simp] theorem length_draws (n : Nat) (g : Generator) : (draws n g).length = n := by
  induction n generalizing g with
  | zero => rfl
  | succ n ih => simp [ih]

theorem advance_add (m n : Nat) (g : Generator) :
    advance (m + n) g = advance n (advance m g) := by
  induction m generalizing g with
  | zero => simp [advance]
  | succ m ih => rw [Nat.succ_add]; simp [advance, ih]

theorem draws_add (m n : Nat) (g : Generator) :
    draws (m + n) g = draws m g ++ draws n (advance m g) := by
  induction m generalizing g with
  | zero => simp [advance]
  | succ m ih => rw [Nat.succ_add]; simp [advance, ih]

theorem drop_draws (m n : Nat) (g : Generator) :
    (draws (m + n) g).drop m = draws n (advance m g) := by
  rw [draws_add, List.drop_append, length_draws]
  simp

/-- A draw as a number that is never negative: its upper 63 bits. -/
def signedDraw (w : UInt64) : Int := (w.toNat / 2 : Nat)

theorem signedDraw_eq (w : UInt64) : signedDraw w = ((w >>> 1).toNat : Int) := by
  rw [UInt64.toNat_shiftRight]
  rfl

end Generator
end Hush
