import Hush.Proofs.Generator.Reversal
import Hush.Proofs.Silence.Filling
import Mathlib.Data.List.DropRight

/-!
# One sequence for all streams

However calls on a source follow each other, together they take the draws of the seed in force one
after another, each draw once. A stream knows nothing of the others but the draw that its own
latest fill ended with.
-/
namespace Hush.Silence
namespace Source

/-- The source after a call; one at fault leaves it as it was. -/
def after (s : Source) (c : Call) : Source :=
  match s.step c with
  | .ok out => out.source
  | .error _ => s

/-- How many draws a call takes that was answered. -/
def appetite : Call → Reply → Nat
  | .draw readings, _ => readings.length
  | .zeroFrames _ frames _ _ _, _ => frames * Format.outputChannels
  | .fill _ _ frames, .streamFilled .. => frames * Format.outputChannels
  | _, _ => 0

/-- The draws that a call takes; none when it is at fault. -/
def taken (s : Source) (c : Call) : List UInt64 :=
  match s.step c with
  | .ok out => s.generator.draws (appetite c out.reply)
  | .error _ => []

theorem run_snoc (s : Source) (calls : List Call) (c : Call) :
    s.run (calls ++ [c]) = (s.run calls).after c := by
  simp only [run, List.foldl_append]
  rfl

/-- A call of a run, with the draws it took. -/
structure Turn where
  call : Call
  drawn : List UInt64

/-- The calls of a run, each with the draws it took. -/
def history (s : Source) : List Call → List Turn
  | [] => []
  | c :: calls => ⟨c, s.taken c⟩ :: (s.after c).history calls

theorem history_snoc (s : Source) (calls : List Call) (c : Call) :
    s.history (calls ++ [c]) = s.history calls ++ [⟨c, (s.run calls).taken c⟩] := by
  induction calls generalizing s with
  | nil => rfl
  | cons c' calls ih =>
    have hrun : (s.after c').run calls = s.run (c' :: calls) := rfl
    rw [List.cons_append, history, ih, hrun]
    rfl

namespace Turn

/-- The seed that a turn brings in. -/
def seed? (x : Turn) : Option UInt64 :=
  match x.call with
  | .reseed seed => some seed
  | _ => none

/-- The draw that a turn ends with, if it fills a buffer for the stream and draws for it. -/
def ended? (stream : Nat) (x : Turn) : Option UInt64 :=
  match x.call with
  | .fill i _ _ => if i = stream then x.drawn.getLast? else none
  | _ => none

end Turn

/-- The seed in force after a run that began with the first one. -/
def seedInForce (first : UInt64) (h : List Turn) : UInt64 :=
  ((h.filterMap Turn.seed?).getLast?).getD first

/-- The draws taken, in the order of the calls, since a seed was last brought in. -/
def drawnSince (h : List Turn) : List UInt64 :=
  (h.rtakeWhile fun x => x.seed?.isNone).flatMap (·.drawn)

/-- The signed draw that ended a stream's own latest fill; zero before there is one. -/
def lastOwn (stream : Nat) (h : List Turn) : Int :=
  ((h.filterMap (Turn.ended? stream)).getLast?).elim 0 Generator.signedDraw

theorem seedInForce_snoc (first : UInt64) (h : List Turn) (x : Turn) :
    seedInForce first (h ++ [x]) = x.seed?.getD (seedInForce first h) := by
  cases hx : x.seed? <;> simp [seedInForce, hx]

theorem drawnSince_snoc_reseed (h : List Turn) {x : Turn} {seed : UInt64}
    (hx : x.seed? = some seed) : drawnSince (h ++ [x]) = [] := by
  rw [drawnSince, List.rtakeWhile_concat_neg _ _ _ (by simp [hx])]
  rfl

theorem drawnSince_snoc (h : List Turn) {x : Turn} (hx : x.seed? = none) :
    drawnSince (h ++ [x]) = drawnSince h ++ x.drawn := by
  rw [drawnSince, List.rtakeWhile_concat_pos _ _ _ (by simp [hx])]
  simp [drawnSince]

theorem lastOwn_snoc (stream : Nat) (h : List Turn) (x : Turn) :
    lastOwn stream (h ++ [x]) = (x.ended? stream).elim (lastOwn stream h) Generator.signedDraw := by
  cases hx : x.ended? stream <;> simp [lastOwn, hx]

/-! ### One call -/

/-- What a stream answers to a fill, worked out from a block of draws. -/
def replyFrom (stream : Stream) (buffer : List UInt8) (frames : Nat) (block : List UInt64) :
    Reply :=
  let written := rendered stream.layout stream.dither stream.continuation block ++
    buffer.drop (extent stream.layout frames)
  .streamFilled (extent stream.layout frames) written (carried stream.continuation block)

theorem after_reseed (s : Source) (seed : UInt64) :
    s.after (.reseed seed) = ⟨.seeded seed, s.streams⟩ := rfl

theorem step_draw (s : Source) (readings : List Reading) :
    s.step (.draw readings) =
      .ok ⟨{ s with generator := s.generator.advance readings.length },
        .draws (List.zipWith Reading.value readings (s.generator.draws readings.length)), []⟩ := rfl

theorem step_fill_of_holds {s : Source} {i : Nat} {stream : Stream} {buffer : List UInt8}
    {frames : Nat} (hi : s.streams[i]? = some stream) (h : stream.Holds buffer frames) :
    s.step (.fill i buffer frames) =
      .ok ⟨⟨s.generator.advance (frames * Format.outputChannels),
          s.streams.set i (stream.filled s.generator buffer frames).stream⟩,
        replyFrom stream buffer frames
          (s.generator.draws (frames * Format.outputChannels)),
        (stream.filled s.generator buffer frames).events⟩ := by
  simp only [step, hi, Stream.fill_of_holds h, bind, Except.bind, pure, Except.pure]
  rfl

theorem step_fill_of_not_holds {s : Source} {i : Nat} {stream : Stream} {buffer : List UInt8}
    {frames : Nat} (hi : s.streams[i]? = some stream) (h : ¬ stream.Holds buffer frames) :
    ∃ e, s.step (.fill i buffer frames) = .error e := by
  obtain ⟨e, he⟩ := Stream.fill_of_not_holds h s.generator
  exact ⟨e, by simp [step, hi, he, bind, Except.bind]⟩

theorem step_fill_of_no_stream {s : Source} {i : Nat} (hi : s.streams[i]? = none)
    (buffer : List UInt8) (frames : Nat) :
    s.step (.fill i buffer frames) = .ok ⟨s, .done, []⟩ := by
  simp [step, hi]

/-- Whatever a call takes, it takes from where the generator stands. -/
theorem taken_eq_draws (s : Source) (c : Call) :
    s.taken c = s.generator.draws (s.taken c).length := by
  unfold taken
  split <;> simp

/-- A call moves the generator past the draws it takes and no further, unless it brings in a
seed. -/
theorem generator_after (s : Source) {c : Call} (hc : ∀ seed, c ≠ .reseed seed) :
    (s.after c).generator = s.generator.advance (s.taken c).length := by
  cases c with
  | reseed seed => exact absurd rfl (hc seed)
  | draw readings => simp [after, taken, step_draw, appetite]
  | zeroFrames buffer frames f dither continuation =>
    cases hout : Silence.fill s.generator buffer frames f dither continuation with
    | error e => simp [after, taken, step, hout, bind, Except.bind]
    | ok out =>
      obtain ⟨l, -, -, -, rfl⟩ := (fill_eq_ok_iff _ _ _ _ _ _ _).mp hout
      simp [after, taken, step, hout, bind, Except.bind, pure, Except.pure, appetite, filled]
  | addStream f dither =>
    cases hf : Stream.create f dither <;>
      simp [after, taken, step, hf, bind, Except.bind, pure, Except.pure, appetite]
  | fill i buffer frames =>
    cases hi : s.streams[i]? with
    | none => simp [after, taken, step_fill_of_no_stream hi, appetite]
    | some stream =>
      by_cases h : stream.Holds buffer frames
      · simp [after, taken, step_fill_of_holds hi h, appetite, replyFrom]
      · obtain ⟨e, he⟩ := step_fill_of_not_holds hi h
        simp [after, taken, he]
  | setDither i dither =>
    cases hi : s.streams[i]? <;> simp [after, taken, step, hi, appetite]

/-- The draw that a stream goes on from; zero for a stream that is not there yet. -/
def goesOnFrom (s : Source) (i : Nat) : Int := s.streams[i]?.elim 0 (·.continuation)

theorem goesOnFrom_of_stream {s : Source} {i : Nat} {stream : Stream}
    (hi : s.streams[i]? = some stream) : s.goesOnFrom i = stream.continuation := by
  simp [goesOnFrom, hi]

theorem set_of_stream {s : Source} {i : Nat} {stream : Stream}
    (hi : s.streams[i]? = some stream) : s.streams.set i stream = s.streams := by
  obtain ⟨hlt, rfl⟩ := List.getElem?_eq_some_iff.mp hi
  exact List.set_getElem_self hlt

theorem goesOnFrom_set {s : Source} {i : Nat} {old : Stream} (hi : s.streams[i]? = some old)
    (g : Generator) (new : Stream) (j : Nat) :
    (⟨g, s.streams.set i new⟩ : Source).goesOnFrom j =
      if i = j then new.continuation else s.goesOnFrom j := by
  obtain ⟨hlt, -⟩ := List.getElem?_eq_some_iff.mp hi
  by_cases hij : i = j
  · subst j
    simp [goesOnFrom, hlt]
  · simp [goesOnFrom, hij]

theorem goesOnFrom_add {s : Source} {f : Format} {dither : Bool} {stream : Stream}
    (h : Stream.create f dither = .ok stream) (g : Generator) (j : Nat) :
    (⟨g, s.streams ++ [stream]⟩ : Source).goesOnFrom j = s.goesOnFrom j := by
  have hnew : stream.continuation = 0 := by
    unfold Stream.create at h
    split at h <;> cases h
    rfl
  rcases Nat.lt_trichotomy j s.streams.length with hj | hj | hj
  · simp only [goesOnFrom, List.getElem?_append_left hj]
  · simp [goesOnFrom, hj, hnew]
  · have hbeyond : (s.streams ++ [stream])[j]? = none := by
      rw [List.getElem?_eq_none_iff, List.length_append, List.length_singleton]
      omega
    have hbefore : s.streams[j]? = none := List.getElem?_eq_none_iff.mpr (Nat.le_of_lt hj)
    simp only [goesOnFrom, hbeyond, hbefore]

/-- A call changes what a stream goes on from only by filling a buffer for it, and then to the
draw it ends with. -/
theorem goesOnFrom_after (s : Source) (c : Call) (j : Nat) :
    (s.after c).goesOnFrom j =
      ((⟨c, s.taken c⟩ : Turn).ended? j).elim (s.goesOnFrom j) Generator.signedDraw := by
  cases c with
  | reseed seed => rfl
  | draw readings => rfl
  | zeroFrames buffer frames f dither continuation =>
    cases hout : Silence.fill s.generator buffer frames f dither continuation <;>
      simp [after, step, hout, bind, Except.bind, pure, Except.pure, Turn.ended?, goesOnFrom]
  | addStream f dither =>
    cases hf : Stream.create f dither with
    | error e => simp [after, step, hf, bind, Except.bind, Turn.ended?]
    | ok stream =>
      simpa [after, step, hf, bind, Except.bind, pure, Except.pure, Turn.ended?] using
        goesOnFrom_add hf s.generator j
  | fill i buffer frames =>
    cases hi : s.streams[i]? with
    | none => simp [after, taken, step_fill_of_no_stream hi, appetite, Turn.ended?]
    | some stream =>
      by_cases h : stream.Holds buffer frames
      · have hstep := step_fill_of_holds hi h
        simp only [after, hstep, goesOnFrom_set hi]
        by_cases hij : i = j
        · subst j
          rw [goesOnFrom_of_stream hi]
          cases hlast : (s.generator.draws (frames * Format.outputChannels)).getLast? <;>
            simp [taken, hstep, appetite, replyFrom, Turn.ended?, Stream.filled, filled,
              carried, hlast]
        · simp [hij, Turn.ended?]
      · obtain ⟨e, he⟩ := step_fill_of_not_holds hi h
        simp [after, taken, he, Turn.ended?]
  | setDither i dither =>
    cases hi : s.streams[i]? with
    | none => simp [after, step, hi, Turn.ended?]
    | some stream =>
      simp only [after, step, hi, goesOnFrom_set hi, Turn.ended?, Option.elim_none]
      split
      · subst j
        rw [goesOnFrom_of_stream hi]
        rfl
      · rfl

/-! ### Runs of calls -/

/-- What the history of a run says about the source it leads to. -/
structure Accounts (first : UInt64) (h : List Turn) (s : Source) : Prop where
  drawn : drawnSince h =
    Generator.draws (drawnSince h).length (.seeded (seedInForce first h))
  generator : s.generator =
    Generator.advance (drawnSince h).length (.seeded (seedInForce first h))
  streams : ∀ i, s.goesOnFrom i = lastOwn i h

theorem accounts_seeded (first : UInt64) : Accounts first [] (.seeded first) :=
  ⟨by simp [drawnSince], by simp [drawnSince, seedInForce, seeded],
    fun _ => by simp [goesOnFrom, lastOwn, seeded]⟩

theorem accounts_after {first : UInt64} {h : List Turn} {s : Source} (hs : Accounts first h s)
    (c : Call) : Accounts first (h ++ [⟨c, s.taken c⟩]) (s.after c) := by
  have hstreams : ∀ i, (s.after c).goesOnFrom i = lastOwn i (h ++ [⟨c, s.taken c⟩]) := by
    intro i
    rw [lastOwn_snoc, goesOnFrom_after, hs.streams i]
  by_cases hc : ∃ seed, c = .reseed seed
  · obtain ⟨seed, rfl⟩ := hc
    have hseed : (⟨.reseed seed, s.taken (.reseed seed)⟩ : Turn).seed? = some seed := rfl
    refine ⟨?_, ?_, hstreams⟩
    · rw [drawnSince_snoc_reseed h hseed, List.length_nil, Generator.draws_zero]
    · rw [drawnSince_snoc_reseed h hseed, seedInForce_snoc, hseed, List.length_nil,
        Generator.advance_zero, Option.getD_some, after_reseed]
  · have hseed : (⟨c, s.taken c⟩ : Turn).seed? = none := by
      cases c <;> first | rfl | exact absurd ⟨_, rfl⟩ hc
    have htaken := taken_eq_draws s c
    rw [hs.generator] at htaken
    refine ⟨?_, ?_, hstreams⟩
    · rw [drawnSince_snoc h hseed, seedInForce_snoc, hseed, List.length_append,
        Generator.draws_add, Option.getD_none, ← hs.drawn, ← htaken]
    · rw [drawnSince_snoc h hseed, seedInForce_snoc, hseed, List.length_append,
        Generator.advance_add, Option.getD_none, ← hs.generator]
      exact generator_after s fun seed he => hc ⟨seed, he⟩

theorem accounts_run (first : UInt64) (calls : List Call) :
    Accounts first ((seeded first).history calls) ((seeded first).run calls) := by
  induction calls using List.reverseRecOn with
  | nil => exact accounts_seeded first
  | append_singleton calls c ih =>
    rw [history_snoc, run_snoc]
    exact accounts_after ih c

/-- The draws of a seed: those that follow the twenty thrown away. -/
theorem draws_seeded (n : Nat) (seed : UInt64) :
    Generator.draws n (.seeded seed) =
      (Generator.draws (20 + n) ⟨0xf1ea5eed, seed, seed, seed⟩).drop 20 :=
  (Generator.drop_draws 20 n _).symm

theorem advance_seeded (n : Nat) (seed : UInt64) :
    Generator.advance n (.seeded seed) =
      Generator.advance (20 + n) ⟨0xf1ea5eed, seed, seed, seed⟩ :=
  (Generator.advance_add 20 n _).symm

theorem length_taken_fill {s : Source} {i : Nat} {stream : Stream} {buffer : List UInt8}
    {frames : Nat} (hi : s.streams[i]? = some stream) (h : stream.Holds buffer frames) :
    (s.taken (.fill i buffer frames)).length = 2 * frames := by
  simp [taken, step_fill_of_holds hi h, appetite, replyFrom, Format.outputChannels,
    Nat.mul_comm]

/-- After any run of calls the draws since the last seed are the first ones of that seed's
sequence, and they alone settle where the generator stands. Each stream goes on from the draw that
ended its own latest fill. Whatever is called next takes the draws that follow: a run of readings
one for each, and a fill two for each frame, from which and from its own stream it works out all
that it writes, unless the buffer does not hold the frames and nothing is taken. A draw is read as
its word or as a signed number, which is its word shifted down by one bit, and it is the signed
number that a stream goes on from. The word itself is the last one of the state that the draw leads
to. -/
theorem calls_share_one_sequence (first : UInt64) (calls : List Call) :
    let h := (seeded first).history calls
    let s := (seeded first).run calls
    let seed := seedInForce first h
    let start : Generator := ⟨0xf1ea5eed, seed, seed, seed⟩
    let used := (drawnSince h).length
    drawnSince h = (Generator.draws (20 + used) start).drop 20 ∧
    s.generator = Generator.advance (20 + used) start ∧
    (∀ i stream, s.streams[i]? = some stream → stream.continuation = lastOwn i h) ∧
    (∀ c, s.taken c =
      (Generator.draws (20 + used + (s.taken c).length) start).drop (20 + used)) ∧
    (∀ readings, (s.taken (.draw readings)).length = readings.length ∧
      ∃ out, s.step (.draw readings) = .ok out ∧
        out.reply = .draws (List.zipWith Reading.value readings (s.taken (.draw readings)))) ∧
    (∀ i stream buffer frames, s.streams[i]? = some stream →
      (stream.Holds buffer frames →
        (s.taken (.fill i buffer frames)).length = 2 * frames ∧
        ∃ out, s.step (.fill i buffer frames) = .ok out ∧
          out.reply = replyFrom stream buffer frames (s.taken (.fill i buffer frames))) ∧
      (¬ stream.Holds buffer frames →
        s.taken (.fill i buffer frames) = [] ∧
        ∃ e, s.step (.fill i buffer frames) = .error e)) ∧
    (∀ w : UInt64, Reading.word.value w = w.toNat ∧ Reading.number.value w = (w >>> 1).toNat ∧
      Generator.signedDraw w = (w >>> 1).toNat) ∧
    (∀ n g, Generator.advance n g = Generator.next^[n] g ∧
      Generator.draws n g = (List.range n).map fun k => (Generator.next^[k + 1] g).d) ∧
    (∀ g : Generator,
      let e := g.a.toBitVec - g.b.toBitVec.rotateLeft 7
      let a := g.b.toBitVec ^^^ g.c.toBitVec.rotateLeft 13
      g.next = ⟨.ofBitVec a, .ofBitVec (g.c.toBitVec + g.d.toBitVec.rotateLeft 37),
        .ofBitVec (g.d.toBitVec + e), .ofBitVec (e + a)⟩) := by
  intro h s seed start used
  have hs : Accounts first h s := accounts_run first calls
  have hgenerator : s.generator = Generator.advance (20 + used) start :=
    hs.generator.trans (advance_seeded used seed)
  refine ⟨hs.drawn.trans (draws_seeded used seed), hgenerator, ?_, ?_, ?_, ?_,
    fun w => ⟨rfl, Generator.signedDraw_eq w, Generator.signedDraw_eq w⟩,
    fun n g => ⟨congrFun (Generator.advance_eq_iterate n) g, Generator.draws_eq_map_iterate n g⟩,
    Generator.next_eq_ofBitVec⟩
  · intro i stream hi
    rw [← goesOnFrom_of_stream hi]
    exact hs.streams i
  · intro c
    rw [Generator.drop_draws, ← hgenerator]
    exact taken_eq_draws s c
  · intro readings
    have htaken : s.taken (.draw readings) = s.generator.draws readings.length := rfl
    rw [htaken]
    exact ⟨Generator.length_draws _ _, _, step_draw s readings, rfl⟩
  · intro i stream buffer frames hi
    constructor
    · intro hholds
      have hstep := step_fill_of_holds hi hholds
      refine ⟨length_taken_fill hi hholds, _, hstep, ?_⟩
      simp only [taken, hstep, replyFrom, appetite]
    · intro hshort
      obtain ⟨e, he⟩ := step_fill_of_not_holds hi hshort
      exact ⟨by simp [taken, he], e, he⟩

end Source
end Hush.Silence
