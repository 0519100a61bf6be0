import Hush.Proofs.Generator.Reversal
import Hush.Proofs.Silence.Rendering
import Hush.Proofs.Silence.SharedSource

/-!
# Seeds on a shared source

What holds of a seed and the draws that follow it holds of a source after any run of calls: as many
draws from different seeds leave different generators, and none of them is the state of four zeros,
under which a fill would write what it writes without dither.
-/
namespace Hush
namespace Silence

/-! ### What is drawn out of four zeros -/

theorem samples_of_zeros (l : Layout) (dither : Bool) (n : Nat) :
    samples l dither 0 (List.replicate n 0) = List.replicate n 0 := by
  induction n with
  | zero => rfl
  | succ n ih =>
    have hfirst : sample l dither 0 0 = 0 := by simp [sample]
    rw [List.replicate_succ, samples_cons, hfirst, ih]

theorem map_signedDraw_still (n : Nat) :
    (Generator.still.draws n).map Generator.signedDraw = List.replicate n 0 := by
  rw [Generator.draws_still, List.map_replicate]
  rfl

/-- Only a first sample can be other than zero, since the draw before it need not be. -/
theorem samples_still (l : Layout) (dither : Bool) (continuation : Int) (n : Nat) :
    samples l dither continuation ((Generator.still.draws (n + 1)).map Generator.signedDraw) =
      sample l dither 0 continuation :: List.replicate n 0 := by
  rw [map_signedDraw_still, List.replicate_succ, samples_cons, samples_of_zeros]

theorem sampled_still (frames : Nat) (l : Layout) (dither : Bool) :
    sampled .still frames l dither 0 = List.replicate (2 * frames) 0 := by
  rw [sampled, map_signedDraw_still, samples_of_zeros, Nat.mul_comm]
  rfl

theorem carried_still (n : Nat) : carried 0 (Generator.still.draws n) = 0 := by
  rw [carried, map_signedDraw_still, List.getLast?_replicate]
  split <;> rfl

/-- Going on from a draw of zero, a fill writes what any fill without dither writes, and the next
one goes on from zero again. -/
theorem fill_still (buffer : List UInt8) (frames : Nat) (f : Format) (dither : Bool)
    (g : Generator) (continuation : Int) :
    (fill .still buffer frames f dither 0).map
        (fun out => (out.buffer, out.continuation, out.generator)) =
      (fill g buffer frames f false continuation).map
        (fun out => (out.buffer, 0, Generator.still)) := by
  cases hl : f.layout? with
  | none =>
    rw [fill_of_no_layout hl, fill_of_no_layout hl]
    rfl
  | some l =>
    rw [fill_of_layout hl, fill_of_layout hl]
    by_cases hlong : sizeLimit ≤ extent l frames
    · rw [if_pos hlong, if_pos hlong]
      rfl
    by_cases hshort : buffer.length < extent l frames
    · rw [if_neg hlong, if_neg hlong, if_pos hshort, if_pos hshort]
      rfl
    rw [if_neg hlong, if_neg hlong, if_neg hshort, if_neg hshort]
    show Except.ok (bytes l (sampled .still frames l dither 0) ++ _, carried 0 _,
        Generator.advance _ .still) =
      Except.ok (bytes l (sampled g frames l false continuation) ++ _, 0, _)
    rw [sampled_still, sampled_undithered, carried_still, Generator.advance_still]

namespace Source

/-! ### Runs of calls -/

/-- Any number of draws can be taken back, so by equally many draws neither two states nor two seeds
come to the same state. No seed comes to the four zeros, which no draw changes; out of them come
zeros only, and every sample but a first one is what it is without dither. After any run of calls
the generator stands elsewhere, and two generators that made equally many draws since their seeds
stand alike only if the seeds are the same. -/
theorem seeds_stay_apart_and_alive :
    (∀ g : Generator,
      let e := g.a.toBitVec - g.b.toBitVec.rotateLeft 7
      let a := g.b.toBitVec ^^^ g.c.toBitVec.rotateLeft 13
      g.next = ⟨.ofBitVec a, .ofBitVec (g.c.toBitVec + g.d.toBitVec.rotateLeft 37),
        .ofBitVec (g.d.toBitVec + e), .ofBitVec (e + a)⟩) ∧
    (∀ n, Generator.advance n = Generator.next^[n]) ∧
    (∀ seed, Generator.seeded seed = Generator.next^[20] ⟨0xf1ea5eed, seed, seed, seed⟩) ∧
    Function.Bijective Generator.next ∧
    (∀ n, Function.Bijective (Generator.advance n)) ∧
    (∀ first second, first ≠ second → ∀ n,
      Generator.advance n (.seeded first) ≠ Generator.advance n (.seeded second)) ∧
    (∀ seed n, Generator.advance n (.seeded seed) ≠ .still) ∧
    (∀ n, Generator.still.advance n = .still ∧ Generator.still.draws n = List.replicate n 0) ∧
    (∀ l dither continuation n,
      samples l dither continuation ((Generator.still.draws (n + 1)).map Generator.signedDraw) =
        sample l dither 0 continuation :: List.replicate n 0) ∧
    (∀ buffer frames f dither g continuation,
      (fill .still buffer frames f dither 0).map
          (fun out => (out.buffer, out.continuation, out.generator)) =
        (fill g buffer frames f false continuation).map
          (fun out => (out.buffer, 0, Generator.still))) ∧
    (∀ first calls, ((seeded first).run calls).generator ≠ .still) ∧
    (∀ first second calls others,
      let h := (seeded first).history calls
      let k := (seeded second).history others
      (drawnSince h).length = (drawnSince k).length →
      (((seeded first).run calls).generator = ((seeded second).run others).generator ↔
        seedInForce first h = seedInForce second k)) := by
  refine ⟨Generator.next_eq_ofBitVec, Generator.advance_eq_iterate, Generator.seeded_eq_iterate,
    Generator.next_bijective, Generator.advance_bijective, ?_,
    fun seed n => Generator.advance_seeded_ne_still n seed,
    fun n => ⟨Generator.advance_still n, Generator.draws_still n⟩, samples_still, fill_still,
    ?_, ?_⟩
  · intro first second hseeds n hsame
    exact hseeds ((Generator.advance_seeded_eq_iff n first second).mp hsame)
  · intro first calls
    rw [(accounts_run first calls).generator]
    exact Generator.advance_seeded_ne_still _ _
  · intro first second calls others h k hcount
    rw [(accounts_run first calls).generator, (accounts_run second others).generator]
    show Generator.advance (drawnSince h).length _ = Generator.advance (drawnSince k).length _ ↔ _
    rw [hcount]
    exact Generator.advance_seeded_eq_iff _ _ _

/-- Two sources of one seed, the second of which was given another on the way. -/
theorem seeds_stay_apart_and_alive_reseeded :
    let calls : List Call := [.addStream .s16 true, .fill 0 (List.replicate 8 0) 2]
    let others : List Call :=
      [.draw [.word, .word, .number], .reseed 1, .draw [.number, .number, .word, .word]]
    Generator.advance 4 (.seeded 0) ≠ Generator.advance 4 (.seeded 1) ∧
    (drawnSince ((seeded 0).history calls)).length = 4 ∧
    (drawnSince ((seeded 0).history others)).length = 4 ∧
    ((seeded 0).run calls).generator ≠ ((seeded 0).run others).generator := by
  intro calls others
  have hcalls : (drawnSince ((seeded 0).history calls)).length = 4 := by decide
  have hothers : (drawnSince ((seeded 0).history others)).length = 4 := by decide
  have hseeds : seedInForce 0 ((seeded 0).history calls) ≠
      seedInForce 0 ((seeded 0).history others) := by decide
  obtain ⟨-, -, -, -, -, hdraws, -, -, -, -, -, hruns⟩ := seeds_stay_apart_and_alive
  have hiff := hruns 0 0 calls others (hcalls.trans hothers.symm)
  exact ⟨hdraws 0 1 (by decide) 4, hcalls, hothers, fun hsame => hseeds (hiff.mp hsame)⟩

end Source
end Silence
end Hush
