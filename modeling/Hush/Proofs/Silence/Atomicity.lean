import Hush.Proofs.Pcm.Words
import Hush.Proofs.Silence.SharedSource

/-!
# All of a fill or nothing

A fill that works in place does what `fill` says in one piece. Everything that can stop it is looked
at before the first draw, and no slot on the way can refuse its sample. So a fill at fault leaves
the buffer, the generator and the stream as they were, and a run of calls goes on as if that fill
had never been asked for.
-/
namespace Hush.Silence
open Work

/-! ### One slot -/

/-- The slot is written over, and no byte in front of it or behind it. -/
theorem runOn_packInPlace {l : Layout} (hl : l.Proper) (v : Int) (front room behind : List UInt8)
    (hroom : room.length = l.byteWidth) (g : Generator) (events : List Log.Event) :
    (packInPlace l front.length v).runOn ⟨front ++ (room ++ behind), g, events⟩ =
      (.ok (), ⟨front ++ (Pcm.slot l v ++ behind), g, events⟩) := by
  have hfront : (front ++ (room ++ behind)).take front.length = front := List.take_left
  have hslot : ((front ++ (room ++ behind)).drop front.length).take l.byteWidth = room := by
    rw [List.drop_left, ← hroom, List.take_left]
  have hbehind : (front ++ (room ++ behind)).drop (front.length + l.byteWidth) = behind := by
    rw [← List.drop_drop, List.drop_left, ← hroom, List.drop_left]
  have hrest : room.drop l.byteWidth = [] := List.drop_of_length_le (Nat.le_of_eq hroom)
  have hpacked := pack_eq_ok hl v (Nat.le_of_eq hroom.symm)
  rw [hrest, List.append_nil] at hpacked
  unfold packInPlace
  rw [runOn_bind_of_ok (runOn_get _)]
  simp only [hslot, hpacked]
  rw [runOn_bind_of_ok (runOn_lift _ _), runOn_modify, hfront, hbehind, List.append_assoc]

theorem runOn_drawInPlace (p : Workplace) :
    drawInPlace.runOn p =
      (.ok (Generator.signedDraw p.generator.next.d), { p with generator := p.generator.next }) :=
  rfl

/-! ### A run of slots -/

theorem rendered_cons (l : Layout) (dither : Bool) (continuation : Int) (draw : UInt64)
    (block : List UInt64) :
    rendered l dither continuation (draw :: block) =
      Pcm.slot l (sample l dither (Generator.signedDraw draw) continuation) ++
        rendered l dither (Generator.signedDraw draw) block := rfl

theorem carried_cons (continuation : Int) (draw : UInt64) (block : List UInt64) :
    carried continuation (draw :: block) = carried (Generator.signedDraw draw) block :=
  carried_append continuation [draw] block

/-- The loop goes through, and leaves what the block of its draws renders. The induction is on the
slots still to write; those already written count as front. -/
theorem runOn_writeSlots {l : Layout} (hl : l.Proper) (dither : Bool) (count : Nat)
    (previous : Int) (front room behind : List UInt8) (hroom : room.length = count * l.byteWidth)
    (g : Generator) (events : List Log.Event) :
    (writeSlots l dither count front.length previous).runOn
        ⟨front ++ (room ++ behind), g, events⟩ =
      (.ok (carried previous (g.draws count)),
        ⟨front ++ (rendered l dither previous (g.draws count) ++ behind), g.advance count,
          events⟩) := by
  induction count generalizing front room previous g with
  | zero =>
    have hnone : room = [] := List.eq_nil_of_length_eq_zero (by omega)
    subst hnone
    simp [writeSlots]
  | succ n ih =>
    rw [Nat.succ_mul] at hroom
    let draw := Generator.signedDraw g.next.d
    let written := Pcm.slot l (sample l dither draw previous)
    have hfirst : (room.take l.byteWidth).length = l.byteWidth := by
      rw [List.length_take]
      omega
    have hrest : (room.drop l.byteWidth).length = n * l.byteWidth := by
      rw [List.length_drop]
      omega
    have hpacked := runOn_packInPlace hl (sample l dither draw previous) front
      (room.take l.byteWidth) (room.drop l.byteWidth ++ behind) hfirst g.next events
    have hstart : front.length + l.byteWidth = (front ++ written).length := by
      rw [List.length_append, Pcm.length_slot]
    have hloop := ih draw (front ++ written) (room.drop l.byteWidth) hrest g.next
    rw [← List.append_assoc (room.take l.byteWidth), List.take_append_drop] at hpacked
    rw [List.append_assoc] at hloop
    rw [writeSlots, runOn_bind_of_ok (runOn_drawInPlace _), runOn_bind_of_ok hpacked, hstart,
      hloop, Generator.draws_succ, rendered_cons, carried_cons, Generator.advance]
    simp only [draw, written, List.append_assoc]

/-! ### A whole fill -/

/-- How work ends that does what was worked out in one piece, and what it leaves. -/
def Workplace.whenFilled (p : Workplace) : Except Fault Filled → Except Stop Int × Workplace
  | .ok out => (.ok out.continuation, ⟨out.buffer, out.generator, p.events ++ out.events⟩)
  | .error e => (.error (.fault e), p)

theorem filled_zero (g : Generator) (buffer : List UInt8) (f : Format) (l : Layout)
    (dither : Bool) (continuation : Int) :
    filled g buffer 0 f l dither continuation = ⟨buffer, continuation, g, []⟩ := by
  simp [filled]

/-- The slots of a whole fill begin with the buffer and leave what lies behind the frames. -/
theorem runOn_writeSlots_extent {f : Format} {l : Layout} (hl : f.layout? = some l) (dither : Bool)
    (frames : Nat) (continuation : Int) (p : Workplace)
    (hlong : extent l frames ≤ p.buffer.length) :
    let out := filled p.generator p.buffer frames f l dither continuation
    (writeSlots l dither (extent l frames / l.byteWidth) 0 continuation).runOn p =
      (.ok out.continuation, ⟨out.buffer, out.generator, p.events⟩) := by
  have hcount : extent l frames / l.byteWidth = frames * Format.outputChannels :=
    Nat.mul_div_cancel _ (Format.byteWidth_pos hl)
  have hroom : (p.buffer.take (extent l frames)).length =
      frames * Format.outputChannels * l.byteWidth := by
    rw [List.length_take, Nat.min_eq_left hlong]
    rfl
  have hloop := runOn_writeSlots (Format.proper hl) dither (frames * Format.outputChannels)
    continuation [] (p.buffer.take (extent l frames)) (p.buffer.drop (extent l frames)) hroom
    p.generator p.events
  rw [List.nil_append, List.nil_append, List.take_append_drop] at hloop
  rw [hcount]
  exact hloop

/-- Filling in place is `fill`: it stops where `fill` is at fault and has changed nothing then. -/
theorem runOn_fillInPlace (frames : Nat) (f : Format) (dither : Bool) (continuation : Int)
    (p : Workplace) :
    (fillInPlace frames f dither continuation).runOn p =
      p.whenFilled (fill p.generator p.buffer frames f dither continuation) := by
  unfold fillInPlace
  cases hl : f.layout? with
  | none =>
    have hlayout : f.layout = .error (.noLayout f) := by simp [Format.layout, hl]
    rw [fill_of_no_layout hl, hlayout, runOn_bind_of_error (runOn_check_error _ p)]
    rfl
  | some l =>
    have hlayout : f.layout = .ok l := (Format.layout_eq_ok_iff f l).mpr hl
    have hproper := Format.proper hl
    rw [fill_of_layout hl, hlayout, runOn_bind_of_ok (runOn_check_ok l p),
      requiredLength_of_layout hl]
    by_cases hfit : extent l frames < sizeLimit
    · rw [if_pos hfit, if_neg (Nat.not_le.mpr hfit), runOn_bind_of_ok (runOn_check_ok _ p),
        runOn_bind_of_ok (runOn_get p)]
      by_cases hshort : p.buffer.length < extent l frames
      · simp only [if_pos hshort]
        rw [runOn_bind_of_error (runOn_check_error _ p)]
        rfl
      · simp only [if_neg hshort]
        have hloop := runOn_writeSlots_extent hl dither frames continuation p (by omega)
        by_cases hzero : frames = 0
        · subst hzero
          rw [if_pos rfl, filled_zero]
          simp [Workplace.whenFilled]
        · rw [if_neg hzero, runOn_bind_of_ok hloop]
          simp only [Workplace.whenFilled, filled, if_neg hzero]
          rfl
    · rw [if_neg hfit, if_pos (Nat.not_lt.mp hfit), runOn_bind_of_error (runOn_check_error _ p)]
      rfl

/-! ### Streams -/

/-- How a fill in place for a stream ends that was worked out in one piece, and what it leaves. -/
def Station.whenFilled (s : Station) : Except Fault Stream.Filled → Except Stop Nat × Station
  | .ok out =>
    (.ok out.written, ⟨⟨out.buffer, out.generator, s.events ++ out.events⟩, out.stream⟩)
  | .error e => (.error (.fault e), s)

namespace Stream

theorem runOn_fillInPlace (frames : Nat) (s : Station) :
    (fillInPlace frames).runOn s =
      s.whenFilled (s.stream.fill s.generator s.buffer frames) := by
  have hplace := Silence.runOn_fillInPlace frames s.stream.format s.stream.dither
    s.stream.continuation s.toWorkplace
  have hstation := runOn_atStation
    (Silence.fillInPlace frames s.stream.format s.stream.dither s.stream.continuation) s
  unfold fillInPlace
  rw [runOn_bind_of_ok (runOn_get s)]
  cases hout : Silence.fill s.generator s.buffer frames s.stream.format s.stream.dither
      s.stream.continuation with
  | error e =>
    rw [hplace, hout] at hstation
    rw [runOn_bind_of_error hstation, fill_of_error hout]
    rfl
  | ok out =>
    obtain ⟨hholds, rfl⟩ := holds_of_fill hout
    have hlength : s.stream.bufferLength frames = .ok (extent s.stream.layout frames) := by
      rw [bufferLength, requiredLength_of_layout s.stream.layout_eq, if_pos hholds.1]
    rw [hplace, hout] at hstation
    rw [runOn_bind_of_ok hstation, fill_of_holds hholds]
    show (check (s.stream.bufferLength frames)).runOn _ = _
    rw [hlength]
    rfl

/-- A stream's fill is the fill of its workplace; besides, it is handed how many bytes were written
and goes on from the last draw. -/
theorem fillInPlace_eq (frames : Nat) (s : Station) :
    let done := (fillInPlace frames).runOn s
    let place := (Silence.fillInPlace frames s.stream.format s.stream.dither
      s.stream.continuation).runOn s.toWorkplace
    (∀ stop, place.1 = .error stop → done = (.error stop, s)) ∧
    (∀ last, place.1 = .ok last → done =
      (.ok (extent s.stream.layout frames),
        ⟨place.2, { s.stream with continuation := last }⟩)) := by
  intro done place
  have hdone : done = _ := runOn_fillInPlace frames s
  have hplace : place = _ := Silence.runOn_fillInPlace frames s.stream.format s.stream.dither
    s.stream.continuation s.toWorkplace
  cases hout : Silence.fill s.generator s.buffer frames s.stream.format s.stream.dither
      s.stream.continuation with
  | error e =>
    rw [hout] at hplace
    rw [fill_of_error hout] at hdone
    constructor
    · intro stop hstop
      rw [hplace] at hstop
      cases hstop
      exact hdone
    · intro last hlast
      rw [hplace] at hlast
      cases hlast
  | ok out =>
    obtain ⟨hholds, rfl⟩ := holds_of_fill hout
    rw [hout] at hplace
    rw [fill_of_holds hholds] at hdone
    constructor
    · intro stop hstop
      rw [hplace] at hstop
      cases hstop
    · intro last hlast
      rw [hplace] at hlast ⊢
      cases hlast
      exact hdone

end Stream

/-! ### Calls on a source -/

namespace Source

/-- The buffer that an answer hands back; it is the one handed in when the call has none to fill. -/
def Reply.bufferAfter (given : List UInt8) : Reply → List UInt8
  | .filled buffer _ => buffer
  | .streamFilled _ buffer _ => buffer
  | _ => given

/-- How a call is performed whose step was worked out in one piece. -/
def whenStepped (s : Source) (c : Call) : Except Fault Step → Performed
  | .ok out => ⟨.ok out.reply, out.source, out.reply.bufferAfter c.buffer, out.events⟩
  | .error e => ⟨.error (.fault e), s, c.buffer, []⟩

theorem runOn_streamReply (frames : Nat) (s : Station) :
    (streamReply frames).runOn s =
      match s.stream.fill s.generator s.buffer frames with
      | .ok out =>
        (.ok (.streamFilled out.written out.buffer out.stream.continuation),
          ⟨⟨out.buffer, out.generator, s.events ++ out.events⟩, out.stream⟩)
      | .error e => (.error (.fault e), s) := by
  have hfill := Stream.runOn_fillInPlace frames s
  unfold streamReply
  by_cases h : s.stream.Holds s.buffer frames
  · rw [Stream.fill_of_holds h] at hfill ⊢
    rw [runOn_bind_of_ok hfill, runOn_bind_of_ok (runOn_get _)]
    rfl
  · obtain ⟨e, he⟩ := Stream.fill_of_not_holds h s.generator
    rw [he] at hfill ⊢
    rw [runOn_bind_of_error hfill]

/-- To perform a call is to take its step, and to change nothing if the step is at fault. -/
theorem perform_eq (s : Source) (c : Call) : s.perform c = s.whenStepped c (s.step c) := by
  cases c with
  | zeroFrames buffer frames f dither continuation =>
    have hplace := runOn_fillInPlace frames f dither continuation ⟨buffer, s.generator, []⟩
    cases hout : fill s.generator buffer frames f dither continuation with
    | error e =>
      rw [hout] at hplace
      simp only [perform, hplace, step, hout]
      rfl
    | ok out =>
      rw [hout] at hplace
      simp only [perform, hplace, step, hout]
      rfl
  | fill i buffer frames =>
    cases hi : s.streams[i]? with
    | none => simp only [perform, step, hi]; rfl
    | some stream =>
      have hreply := runOn_streamReply frames ⟨⟨buffer, s.generator, []⟩, stream⟩
      by_cases h : stream.Holds buffer frames
      · simp only [Stream.fill_of_holds h] at hreply
        simp only [perform, hi, hreply, step_fill_of_holds hi h]
        rfl
      · obtain ⟨e, he⟩ := Stream.fill_of_not_holds h s.generator
        simp only [he] at hreply
        simp only [perform, hi, hreply, step, he, set_of_stream hi]
        rfl
  | addStream f dither =>
    cases hout : Stream.create f dither <;> simp only [perform, step, hout] <;> rfl
  | setDither i dither =>
    cases hi : s.streams[i]? <;> simp only [perform, step, hi] <;> rfl
  | _ => rfl

/-- What is left of a call that is stopped: everything as it was, and no event. -/
theorem perform_of_stopped {s : Source} {c : Call} {stop : Stop}
    (h : (s.perform c).answer = .error stop) : s.perform c = ⟨.error stop, s, c.buffer, []⟩ := by
  rw [perform_eq] at h ⊢
  cases hstep : s.step c with
  | ok out =>
    rw [hstep] at h
    cases h
  | error e =>
    rw [hstep] at h
    cases h
    rfl

theorem source_perform (s : Source) (c : Call) : (s.perform c).source = s.after c := by
  rw [perform_eq, after]
  cases s.step c <;> rfl

/-- Performing calls one after another leads where their steps do. -/
theorem leftBy_eq_run (s : Source) (calls : List Call) : s.leftBy calls = s.run calls := by
  induction calls generalizing s with
  | nil => rfl
  | cons c calls ih =>
    have hrun : (s.after c).run calls = s.run (c :: calls) := rfl
    rw [← hrun, ← ih, ← source_perform]
    rfl

/-- The call fills a buffer. -/
def Call.fills : Call → Bool
  | .zeroFrames .. | .fill .. => true
  | _ => false

/-- The call of a run fills a buffer and was stopped. -/
def failedFill (x : Call × Performed) : Bool := x.1.fills && !x.2.answer.isOk

/-- The calls of a run that are no failed fills, each as it was performed. -/
def lasting (s : Source) (calls : List Call) : List (Call × Performed) :=
  (s.performEach calls).filter fun x => !failedFill x

theorem source_of_failedFill {s : Source} {c : Call}
    (h : failedFill (c, s.perform c) = true) : (s.perform c).source = s := by
  cases hanswer : (s.perform c).answer with
  | ok reply =>
    have hfine : failedFill (c, s.perform c) = false := by
      simp [failedFill, hanswer, Except.isOk, Except.toBool]
    rw [hfine] at h
    cases h
  | error stop => rw [perform_of_stopped hanswer]

/-- Without its failed fills a run is performed as before. -/
theorem performEach_lasting (s : Source) (calls : List Call) :
    s.performEach ((s.lasting calls).map (·.1)) = s.lasting calls ∧
      s.leftBy ((s.lasting calls).map (·.1)) = s.leftBy calls := by
  induction calls generalizing s with
  | nil => exact ⟨rfl, rfl⟩
  | cons c calls ih =>
    cases hfailed : failedFill (c, s.perform c) with
    | true =>
      have hsame := source_of_failedFill hfailed
      have hlasting : s.lasting (c :: calls) = s.lasting calls := by
        simp only [lasting, performEach, hsame]
        rw [List.filter_cons_of_neg (by simp [hfailed])]
      have hleft : s.leftBy (c :: calls) = s.leftBy calls := by
        show (s.perform c).source.leftBy calls = _
        rw [hsame]
      rw [hlasting, hleft]
      exact ih s
    | false =>
      have hlasting : s.lasting (c :: calls) =
          (c, s.perform c) :: (s.perform c).source.lasting calls := by
        simp only [lasting, performEach]
        rw [List.filter_cons_of_pos (by simp [hfailed])]
      obtain ⟨heach, hleft⟩ := ih (s.perform c).source
      rw [hlasting, List.map_cons, performEach, heach]
      exact ⟨rfl, hleft⟩

end Source

/-! ### Whole or nothing -/

/-- The buffer has no room for the frames: their format has no layout, or they take more bytes than
it has. -/
def NoRoom (f : Format) (frames : Nat) (buffer : List UInt8) : Prop :=
  f.layout? = none ∨ ∃ l, f.layout? = some l ∧ buffer.length < extent l frames

theorem isOk_fill_eq_false_iff (g : Generator) {buffer : List UInt8}
    (hword : buffer.length < sizeLimit) (frames : Nat) (f : Format) (dither : Bool)
    (continuation : Int) :
    (fill g buffer frames f dither continuation).isOk = false ↔ NoRoom f frames buffer := by
  cases hl : f.layout? with
  | none =>
    rw [fill_of_no_layout hl]
    exact iff_of_true rfl (.inl hl)
  | some l =>
    have hroom : NoRoom f frames buffer ↔ buffer.length < extent l frames := by
      simp [NoRoom, hl]
    rw [hroom, fill_of_layout hl]
    by_cases hshort : buffer.length < extent l frames
    · refine iff_of_true ?_ hshort
      by_cases hfit : sizeLimit ≤ extent l frames
      · rw [if_pos hfit]
        rfl
      · rw [if_neg hfit, if_pos hshort]
        rfl
    · rw [if_neg (by omega), if_neg hshort]
      exact iff_of_false Bool.true_eq_false.mp hshort

/-- Work in place is stopped exactly where there is no room, and then it has changed nothing. -/
theorem fillInPlace_stopped_iff (frames : Nat) (f : Format) (dither : Bool) (continuation : Int)
    {p : Workplace} (hword : p.buffer.length < sizeLimit) :
    let done := (fillInPlace frames f dither continuation).runOn p
    (done.1.isOk = false ↔ NoRoom f frames p.buffer) ∧ (done.1.isOk = false → done.2 = p) := by
  intro done
  have hdone : done = _ := runOn_fillInPlace frames f dither continuation p
  rw [hdone, ← isOk_fill_eq_false_iff p.generator hword frames f dither continuation]
  cases fill p.generator p.buffer frames f dither continuation with
  | ok out => exact ⟨Iff.rfl, fun h => absurd h Bool.true_eq_false.mp⟩
  | error e => exact ⟨Iff.rfl, fun _ => rfl⟩

/-- Work in place that is not stopped writes over the bytes of its frames, whatever they were, and
over no other. -/
theorem fillInPlace_writes_extent (frames : Nat) (f : Format) (dither : Bool) (continuation : Int)
    {p : Workplace} {last : Int}
    (hlast : ((fillInPlace frames f dither continuation).runOn p).1 = .ok last) :
    let work := fillInPlace frames f dither continuation
    let left := (work.runOn p).2
    ∃ l, f.layout? = some l ∧
      left.buffer.length = p.buffer.length ∧
      left.buffer.drop (extent l frames) = p.buffer.drop (extent l frames) ∧
      (∀ other, extent l frames ≤ other.length →
        (work.runOn { p with buffer := other }).2.buffer.take (extent l frames) =
          left.buffer.take (extent l frames)) ∧
      left.events = p.events ++ if frames = 0 then [] else [generated frames f dither] := by
  intro work left
  have hdone : work.runOn p = _ := runOn_fillInPlace frames f dither continuation p
  cases hout : fill p.generator p.buffer frames f dither continuation with
  | error e =>
    rw [hdone, hout] at hlast
    cases hlast
  | ok out =>
    obtain ⟨l, hl, hfit, hlong, rfl⟩ := (fill_eq_ok_iff _ _ _ _ _ _ _).mp hout
    let written := rendered l dither continuation
      (p.generator.draws (frames * Format.outputChannels))
    have hwritten : written.length = extent l frames := by
      simp only [written, length_rendered, Generator.length_draws]
      rfl
    have hleft : left = ⟨written ++ p.buffer.drop (extent l frames),
        p.generator.advance (frames * Format.outputChannels),
        p.events ++ if frames = 0 then [] else [generated frames f dither]⟩ := by
      simp only [left, hdone, hout]
      rfl
    refine ⟨l, hl, ?_, ?_, ?_, ?_⟩
    · rw [hleft, List.length_append, List.length_drop, hwritten]
      omega
    · rw [hleft, ← hwritten, List.drop_left]
    · intro other hother
      have helse : work.runOn { p with buffer := other } = _ :=
        runOn_fillInPlace frames f dither continuation { p with buffer := other }
      have hgoes := (fill_eq_ok_iff p.generator other frames f dither continuation _).mpr
        ⟨l, hl, hfit, hother, rfl⟩
      rw [helse, hgoes, hleft, ← hwritten, List.take_left]
      exact List.take_left
    · rw [hleft]

/-- So it is with work for a stream, which does what is done at its workplace and then keeps the
last draw. -/
theorem Stream.fillInPlace_stopped_iff (frames : Nat) {s : Station}
    (hword : s.buffer.length < sizeLimit) :
    let outcome := ((Stream.fillInPlace frames).runOn s).1
    let left := ((Stream.fillInPlace frames).runOn s).2
    let work :=
      Silence.fillInPlace frames s.stream.format s.stream.dither s.stream.continuation
    (outcome.isOk = false ↔ NoRoom s.stream.format frames s.buffer) ∧
    (outcome.isOk = false → left = s) ∧
    (∀ written, outcome = .ok written → written = extent s.stream.layout frames ∧
      ∃ last, work.runOn s.toWorkplace = (.ok last, left.toWorkplace) ∧
        left.stream = { s.stream with continuation := last }) := by
  intro outcome left work
  obtain ⟨herror, hok⟩ := Stream.fillInPlace_eq frames s
  obtain ⟨hstopped, -⟩ := Silence.fillInPlace_stopped_iff frames s.stream.format
    s.stream.dither s.stream.continuation hword
  rw [← hstopped]
  cases hplace : work.runOn s.toWorkplace with
  | mk drawn place =>
    cases drawn with
    | error stop =>
      have hdone : (Stream.fillInPlace frames).runOn s = (.error stop, s) :=
        herror stop (congrArg Prod.fst hplace)
      have houtcome : outcome = .error stop := congrArg Prod.fst hdone
      rw [houtcome]
      refine ⟨Iff.rfl, fun _ => congrArg Prod.snd hdone, ?_⟩
      intro written hwritten
      cases hwritten
    | ok last =>
      have hdone : (Stream.fillInPlace frames).runOn s = (.ok (extent s.stream.layout frames),
          ⟨place, { s.stream with continuation := last }⟩) := by
        rw [hok last (congrArg Prod.fst hplace), hplace]
      have houtcome : outcome = .ok (extent s.stream.layout frames) := congrArg Prod.fst hdone
      have hleft : left = ⟨place, { s.stream with continuation := last }⟩ :=
        congrArg Prod.snd hdone
      rw [houtcome, hleft]
      refine ⟨Iff.rfl, fun h => absurd h Bool.true_eq_false.mp, ?_⟩
      intro written hwritten
      cases hwritten
      exact ⟨rfl, last, rfl, rfl⟩

/-- A fill is stopped exactly when its format has no layout or its frames take more bytes than the
buffer has, as they always do where no word holds their number. It then leaves the buffer, the
generator and the stream as they were and makes no event, so that a run of calls comes to the same
without it. A fill that is not stopped writes over the bytes of its frames and no others, and makes
one event if there are frames. Calls performed in place are the steps of the source. -/
theorem fills_are_whole_or_nothing :
    (∀ (f : Format) (l : Layout) (frames : Nat), f.layout? = some l →
      (f.bytesForFrames frames = .ok none ↔ sizeLimit ≤ extent l frames)) ∧
    (∀ (p : Workplace) (frames : Nat) (f : Format) (dither : Bool) (continuation : Int),
      p.buffer.length < sizeLimit →
      let work := fillInPlace frames f dither continuation
      let outcome := (work.runOn p).1
      let left := (work.runOn p).2
      (outcome.isOk = false ↔ NoRoom f frames p.buffer) ∧
      (outcome.isOk = false → left = p) ∧
      (∀ last, outcome = .ok last → ∃ l, f.layout? = some l ∧
        left.buffer.length = p.buffer.length ∧
        left.buffer.drop (extent l frames) = p.buffer.drop (extent l frames) ∧
        (∀ other, extent l frames ≤ other.length →
          (work.runOn { p with buffer := other }).2.buffer.take (extent l frames) =
            left.buffer.take (extent l frames)) ∧
        left.events = p.events ++ if frames = 0 then [] else [generated frames f dither])) ∧
    (∀ (s : Station) (frames : Nat), s.buffer.length < sizeLimit →
      let outcome := ((Stream.fillInPlace frames).runOn s).1
      let left := ((Stream.fillInPlace frames).runOn s).2
      let work := fillInPlace frames s.stream.format s.stream.dither s.stream.continuation
      (outcome.isOk = false ↔ NoRoom s.stream.format frames s.buffer) ∧
      (outcome.isOk = false → left = s) ∧
      (∀ written, outcome = .ok written → written = extent s.stream.layout frames ∧
        ∃ last, work.runOn s.toWorkplace = (.ok last, left.toWorkplace) ∧
          left.stream = { s.stream with continuation := last })) ∧
    (∀ (s : Source) (calls : List Source.Call),
      (∀ c, s.perform c = s.whenStepped c (s.step c)) ∧
      (∀ c stop, (s.perform c).answer = .error stop →
        s.perform c = ⟨.error stop, s, c.buffer, []⟩) ∧
      s.performEach ((s.lasting calls).map (·.1)) = s.lasting calls ∧
      s.leftBy ((s.lasting calls).map (·.1)) = s.leftBy calls) := by
  refine ⟨?_, ?_, ?_, ?_⟩
  · intro f l frames hl
    rw [bytesForFrames_of_layout hl]
    by_cases hfit : extent l frames < sizeLimit
    · simp [hfit]
    · simp [hfit, Nat.not_lt.mp hfit]
  · intro p frames f dither continuation hword
    obtain ⟨hstopped, hsame⟩ := fillInPlace_stopped_iff frames f dither continuation hword
    exact ⟨hstopped, hsame,
      fun last hlast => fillInPlace_writes_extent frames f dither continuation hlast⟩
  · intro s frames hword
    exact Stream.fillInPlace_stopped_iff frames hword
  · intro s calls
    exact ⟨s.perform_eq, fun c stop hstop => Source.perform_of_stopped hstop,
      Source.performEach_lasting s calls⟩

/-- Two frames of four bytes each find no room in seven bytes, which stay as they are. -/
theorem fills_are_whole_or_nothing_seven :
    let p : Workplace := ⟨[1, 2, 3, 4, 5, 6, 7], ⟨1, 2, 3, 4⟩, []⟩
    p.buffer.length < sizeLimit ∧
      ((fillInPlace 2 .s16 true 0).runOn p).1.isOk = false ∧
      ((fillInPlace 2 .s16 true 0).runOn p).2 = p := by
  intro p
  have hword : p.buffer.length < sizeLimit := by decide
  have hroom : NoRoom .s16 2 p.buffer := .inr ⟨_, rfl, by decide⟩
  obtain ⟨hstopped, hsame, -⟩ := fills_are_whole_or_nothing.2.1 p 2 .s16 true 0 hword
  exact ⟨hword, hstopped.mpr hroom, hsame (hstopped.mpr hroom)⟩

end Hush.Silence
