import Hush.Proofs.Silence.Rendering
import Hush.Proofs.Silence.SharedSource

/-!
# What a fill does not depend on

How silence is rendered steers none of the draws. Two fills of as many frames move the generator
alike and end with the same draw, whatever their formats, buffers and dither settings are. So
switching the dither of some streams is noticed nowhere else on their source.
-/
namespace Hush.Silence

/-! ### Two fills -/

/-- A block with a draw in it is gone on from in the same way whatever came before it. -/
theorem carried_of_length_pos {block : List UInt64} (h : 0 < block.length) (c d : Int) :
    carried c block = carried d block := by
  cases block with
  | nil => cases h
  | cons draw block =>
    have hlast : ((draw :: block).map Generator.signedDraw).getLast? ≠ none := by simp
    obtain ⟨last, hlast⟩ := Option.ne_none_iff_exists'.mp hlast
    rw [carried, carried, hlast]
    rfl

/-- Two fills of as many frames from one generator leave the same generator and the same draw to go
on from. -/
theorem fills_advance_alike {g : Generator} {frames : Nat} (hframes : 0 < frames)
    {b₁ b₂ : List UInt8} {f₁ f₂ : Format} {dither₁ dither₂ : Bool} {c₁ c₂ : Int}
    {out₁ out₂ : Filled} (h₁ : fill g b₁ frames f₁ dither₁ c₁ = .ok out₁)
    (h₂ : fill g b₂ frames f₂ dither₂ c₂ = .ok out₂) :
    out₁.generator = g.advance (2 * frames) ∧ out₂.generator = out₁.generator ∧
      out₂.continuation = out₁.continuation := by
  obtain ⟨l, -, -, -, rfl⟩ := (fill_eq_ok_iff _ _ _ _ _ _ _).mp h₁
  obtain ⟨m, -, -, -, rfl⟩ := (fill_eq_ok_iff _ _ _ _ _ _ _).mp h₂
  have hcount : frames * Format.outputChannels = 2 * frames := Nat.mul_comm _ _
  have hblock : 0 < (g.draws (frames * Format.outputChannels)).length := by
    rw [Generator.length_draws, hcount]
    omega
  refine ⟨?_, rfl, carried_of_length_pos hblock c₂ c₁⟩
  show g.advance (frames * Format.outputChannels) = _
  rw [hcount]

/-! ### Sources that differ in dither only -/

namespace Stream

/-- The stream as it is seen where its dither is not. -/
def masked (hidden : Bool) (s : Stream) : Stream := if hidden then s.setDither false else s

theorem masked_false : masked false = id := rfl

@[simp] theorem format_masked (hidden : Bool) (s : Stream) :
    (s.masked hidden).format = s.format := by
  cases hidden <;> rfl

@[simp] theorem continuation_masked (hidden : Bool) (s : Stream) :
    (s.masked hidden).continuation = s.continuation := by
  cases hidden <;> rfl

theorem masked_setDither (s : Stream) (dither : Bool) :
    (s.setDither dither).masked true = s.masked true := rfl

/-- The stream, going on from another draw. -/
def goingOnFrom (s : Stream) (last : Int) : Stream := { s with continuation := last }

theorem masked_goingOnFrom (hidden : Bool) (s : Stream) (last : Int) :
    (s.goingOnFrom last).masked hidden = (s.masked hidden).goingOnFrom last := by
  cases hidden <;> rfl

variable {s t : Stream}

theorem format_of_masked {hidden : Bool} (h : s.masked hidden = t.masked hidden) :
    s.format = t.format := by
  have hformat := congrArg Stream.format h
  rwa [format_masked, format_masked] at hformat

theorem continuation_of_masked {hidden : Bool} (h : s.masked hidden = t.masked hidden) :
    s.continuation = t.continuation := by
  have hcontinuation := congrArg Stream.continuation h
  rwa [continuation_masked, continuation_masked] at hcontinuation

theorem layout_congr (h : s.format = t.format) : s.layout = t.layout := by
  have hs := s.layout_eq
  rw [h, t.layout_eq] at hs
  exact (Option.some.inj hs).symm

theorem holds_congr (h : s.format = t.format) (buffer : List UInt8) (frames : Nat) :
    s.Holds buffer frames ↔ t.Holds buffer frames := by
  rw [Holds, Holds, layout_congr h]

theorem fault_congr (h : s.format = t.format) (buffer : List UInt8) (frames : Nat) :
    s.fault buffer frames = t.fault buffer frames := by
  simp only [fault, layout_congr h, h]

theorem stream_filled (s : Stream) (g : Generator) (buffer : List UInt8) (frames : Nat) :
    (s.filled g buffer frames).stream =
      s.goingOnFrom (carried s.continuation (g.draws (frames * Format.outputChannels))) := rfl

/-- Streams that look alike still do so when both are filled from one generator. -/
theorem masked_filled {hidden : Bool} (h : s.masked hidden = t.masked hidden) (g : Generator)
    (buffer : List UInt8) (frames : Nat) :
    (s.filled g buffer frames).stream.masked hidden =
      (t.filled g buffer frames).stream.masked hidden := by
  rw [stream_filled, stream_filled, masked_goingOnFrom, masked_goingOnFrom, h,
    continuation_of_masked h]

end Stream

namespace Source

variable {picked : Nat → Bool} {s t : Source}

/-- Two sources differ in nothing but the dither of the picked streams. -/
structure Alike (picked : Nat → Bool) (s t : Source) : Prop where
  generator : s.generator = t.generator
  streams : ∀ i, s.streams[i]?.map (Stream.masked (picked i)) =
    t.streams[i]?.map (Stream.masked (picked i))

namespace Alike

theorem refl (picked : Nat → Bool) (s : Source) : Alike picked s s := ⟨rfl, fun _ => rfl⟩

theorem symm (h : Alike picked s t) : Alike picked t s :=
  ⟨h.generator.symm, fun i => (h.streams i).symm⟩

theorem trans {u : Source} (h : Alike picked s t) (h' : Alike picked t u) : Alike picked s u :=
  ⟨h.generator.trans h'.generator, fun i => (h.streams i).trans (h'.streams i)⟩

/-- A stream of the one has its counterpart in the other. -/
theorem stream (h : Alike picked s t) {i : Nat} {x : Stream} (hx : s.streams[i]? = some x) :
    ∃ y, t.streams[i]? = some y ∧ x.masked (picked i) = y.masked (picked i) := by
  have hi := h.streams i
  rw [hx, Option.map_some] at hi
  obtain ⟨y, hy, hmasked⟩ := Option.map_eq_some_iff.mp hi.symm
  exact ⟨y, hy, hmasked.symm⟩

theorem no_stream (h : Alike picked s t) {i : Nat} (hx : s.streams[i]? = none) :
    t.streams[i]? = none := by
  have hi := h.streams i
  rw [hx, Option.map_none] at hi
  exact Option.map_eq_none_iff.mp hi.symm

/-- Of the streams that are not picked nothing is hidden. -/
theorem stream_eq (h : Alike picked s t) {i : Nat} (hi : picked i = false) :
    s.streams[i]? = t.streams[i]? := by
  have hstreams := h.streams i
  rwa [hi, Stream.masked_false, Option.map_id, id, id] at hstreams

theorem length_le (h : Alike picked s t) : s.streams.length ≤ t.streams.length := by
  have hend : t.streams[t.streams.length]? = none := List.getElem?_eq_none_iff.mpr (Nat.le_refl _)
  exact List.getElem?_eq_none_iff.mp (h.symm.no_stream hend)

theorem length_eq (h : Alike picked s t) : s.streams.length = t.streams.length :=
  Nat.le_antisymm h.length_le h.symm.length_le

theorem withGenerator (h : Alike picked s t) (g : Generator) :
    Alike picked ⟨g, s.streams⟩ ⟨g, t.streams⟩ := ⟨rfl, h.streams⟩

/-- Streams that look alike may take the place of streams. -/
theorem set (h : Alike picked s t) (g : Generator) {i : Nat} {x y : Stream}
    (hxy : x.masked (picked i) = y.masked (picked i)) :
    Alike picked ⟨g, s.streams.set i x⟩ ⟨g, t.streams.set i y⟩ := by
  refine ⟨rfl, fun j => ?_⟩
  have hlength := h.length_eq
  by_cases hij : i = j
  · subst j
    by_cases hi : i < s.streams.length
    · have hi' : i < t.streams.length := by omega
      simp [hi, hi', hxy]
    · have hi' : ¬ i < t.streams.length := by omega
      simp [hi, hi']
  · simpa [hij] using h.streams j

theorem add (h : Alike picked s t) (g : Generator) (x : Stream) :
    Alike picked ⟨g, s.streams ++ [x]⟩ ⟨g, t.streams ++ [x]⟩ := by
  refine ⟨rfl, fun j => ?_⟩
  have hlength := h.length_eq
  by_cases hj : j < s.streams.length
  · have hj' : j < t.streams.length := by omega
    simpa only [List.getElem?_append_left hj, List.getElem?_append_left hj'] using h.streams j
  · have hj' : ¬ j < t.streams.length := by omega
    rw [List.getElem?_append_right (Nat.not_lt.mp hj),
      List.getElem?_append_right (Nat.not_lt.mp hj'), hlength]

end Alike

/-! ### One call on either of two sources -/

/-- What a call answers, and the events that it makes. -/
def answer (s : Source) (c : Call) : Except Fault (Reply × List Log.Event) :=
  (s.step c).map fun out => (out.reply, out.events)

/-- The call switches the dither of a picked stream. -/
def Call.switches (picked : Nat → Bool) : Call → Bool
  | .setDither i _ => picked i
  | _ => false

/-- An answer as it is seen where the picked streams' output is not: of a fill for one of them there
is left how much was written and the draw it ended with. -/
def shown (picked : Nat → Bool) (c : Call) (a : Except Fault (Reply × List Log.Event)) :
    Except Fault (Reply × List Log.Event) :=
  match c, a with
  | .fill i _ _, .ok (.streamFilled written _ continuation, _) =>
    if picked i then .ok (.streamFilled written [] continuation, []) else a
  | _, a => a

/-- Switching a picked stream's dither makes no difference that is seen. -/
theorem alike_after_switch {c : Call} (hc : c.switches picked = true) :
    Alike picked (s.after c) s := by
  cases c with
  | setDither i dither =>
    have hi : picked i = true := hc
    cases hx : s.streams[i]? with
    | none =>
      have hafter : s.after (.setDither i dither) = s := by simp [after, step, hx]
      rw [hafter]
      exact .refl picked s
    | some x =>
      have hafter : s.after (.setDither i dither) =
          ⟨s.generator, s.streams.set i (x.setDither dither)⟩ := by simp [after, step, hx]
      have hmasked : (x.setDither dither).masked (picked i) = x.masked (picked i) := by
        rw [hi, Stream.masked_setDither]
      have hset := (Alike.refl picked s).set s.generator hmasked
      rw [set_of_stream hx] at hset
      rw [hafter]
      exact hset
  | _ => cases hc

/-- The call shows the same on both sources and leaves them alike. -/
def Unnoticed (picked : Nat → Bool) (s t : Source) (c : Call) : Prop :=
  shown picked c (s.answer c) = shown picked c (t.answer c) ∧ Alike picked (s.after c) (t.after c)

/-- A call at fault changes neither source. -/
theorem unnoticed_of_error (h : Alike picked s t) {c : Call} {e : Fault}
    (hs : s.step c = .error e) (ht : t.step c = .error e) : Unnoticed picked s t c := by
  have hafter : s.after c = s := by simp [after, hs]
  have hafter' : t.after c = t := by simp [after, ht]
  refine ⟨?_, ?_⟩
  · simp only [answer, hs, ht]
  · rw [hafter, hafter']
    exact h

theorem unnoticed_of_ok {c : Call} {s' t' : Source} {reply : Reply} {events : List Log.Event}
    (hs : s.step c = .ok ⟨s', reply, events⟩) (ht : t.step c = .ok ⟨t', reply, events⟩)
    (h : Alike picked s' t') : Unnoticed picked s t c := by
  have hafter : s.after c = s' := by simp [after, hs]
  have hafter' : t.after c = t' := by simp [after, ht]
  refine ⟨?_, ?_⟩
  · simp only [answer, hs, ht]
    rfl
  · rw [hafter, hafter']
    exact h

theorem unnoticed_setDither (h : Alike picked s t) {i : Nat} (hi : picked i = false)
    (dither : Bool) : Unnoticed picked s t (.setDither i dither) := by
  have hstream := h.stream_eq hi
  cases hx : s.streams[i]? with
  | none =>
    rw [hx] at hstream
    have hs : s.step (.setDither i dither) = .ok ⟨s, .done, []⟩ := by simp [step, hx]
    have ht : t.step (.setDither i dither) = .ok ⟨t, .done, []⟩ := by simp [step, ← hstream]
    exact unnoticed_of_ok hs ht h
  | some x =>
    rw [hx] at hstream
    have hs : s.step (.setDither i dither) =
        .ok ⟨⟨s.generator, s.streams.set i (x.setDither dither)⟩, .done, []⟩ := by
      simp [step, hx]
    have ht : t.step (.setDither i dither) =
        .ok ⟨⟨s.generator, t.streams.set i (x.setDither dither)⟩, .done, []⟩ := by
      simp [step, ← hstream, h.generator]
    exact unnoticed_of_ok hs ht (h.set s.generator rfl)

theorem unnoticed_fill (h : Alike picked s t) (i : Nat) (buffer : List UInt8) (frames : Nat) :
    Unnoticed picked s t (.fill i buffer frames) := by
  cases hx : s.streams[i]? with
  | none =>
    have hy := h.no_stream hx
    exact unnoticed_of_ok (step_fill_of_no_stream hx _ _) (step_fill_of_no_stream hy _ _) h
  | some x =>
    obtain ⟨y, hy, hmasked⟩ := h.stream hx
    have hformat := Stream.format_of_masked hmasked
    by_cases hholds : x.Holds buffer frames
    · have hholds' : y.Holds buffer frames := (Stream.holds_congr hformat buffer frames).mp hholds
      have hstep := step_fill_of_holds hx hholds
      have hstep' := step_fill_of_holds hy hholds'
      have halike := h.set (t.generator.advance (frames * Format.outputChannels))
        (Stream.masked_filled hmasked t.generator buffer frames)
      rw [h.generator] at hstep
      -- a picked stream may write other bytes, which are not shown; any other stream is the same
      -- one on both sides
      cases hi : picked i with
      | true =>
        refine ⟨?_, ?_⟩
        · simp only [answer, hstep, hstep', Except.map, shown, replyFrom, hi, if_true,
            Stream.layout_congr hformat, Stream.continuation_of_masked hmasked]
        · simp only [after, hstep, hstep']
          exact halike
      | false =>
        have hsame : x = y := by
          rw [hi] at hmasked
          exact hmasked
        subst hsame
        exact unnoticed_of_ok hstep hstep' halike
    · have hholds' : ¬ y.Holds buffer frames := fun h' =>
        hholds ((Stream.holds_congr hformat buffer frames).mpr h')
      have hfault := Stream.fault_congr hformat buffer frames
      have hs : s.step (.fill i buffer frames) = .error (x.fault buffer frames) := by
        simp [step, hx, Stream.fill_eq_fault hholds, bind, Except.bind]
      have ht : t.step (.fill i buffer frames) = .error (x.fault buffer frames) := by
        simp [step, hy, Stream.fill_eq_fault hholds', hfault, bind, Except.bind]
      exact unnoticed_of_error h hs ht

/-- Any call that does not switch a picked stream's dither is unnoticed. -/
theorem unnoticed (h : Alike picked s t) {c : Call} (hc : c.switches picked = false) :
    Unnoticed picked s t c := by
  have hgenerator := h.generator
  cases c with
  | reseed seed => exact unnoticed_of_ok rfl rfl (h.withGenerator (.seeded seed))
  | draw readings =>
    have ht := step_draw t readings
    rw [← hgenerator] at ht
    exact unnoticed_of_ok (step_draw s readings) ht (h.withGenerator _)
  | zeroFrames buffer frames f dither continuation =>
    cases hout : Silence.fill s.generator buffer frames f dither continuation with
    | error e =>
      have hs : s.step (.zeroFrames buffer frames f dither continuation) = .error e := by
        simp [step, hout, bind, Except.bind]
      rw [hgenerator] at hout
      exact unnoticed_of_error h hs (by simp [step, hout, bind, Except.bind])
    | ok out =>
      have hs : s.step (.zeroFrames buffer frames f dither continuation) =
          .ok ⟨⟨out.generator, s.streams⟩, .filled out.buffer out.continuation, out.events⟩ := by
        simp [step, hout, bind, Except.bind, pure, Except.pure]
      rw [hgenerator] at hout
      have ht : t.step (.zeroFrames buffer frames f dither continuation) =
          .ok ⟨⟨out.generator, t.streams⟩, .filled out.buffer out.continuation, out.events⟩ := by
        simp [step, hout, bind, Except.bind, pure, Except.pure]
      exact unnoticed_of_ok hs ht (h.withGenerator out.generator)
  | addStream f dither =>
    cases hout : Stream.create f dither with
    | error e =>
      have hstep (u : Source) : u.step (.addStream f dither) = .error e := by
        simp [step, hout, bind, Except.bind]
      exact unnoticed_of_error h (hstep s) (hstep t)
    | ok stream =>
      have hstep (u : Source) : u.step (.addStream f dither) =
          .ok ⟨⟨u.generator, u.streams ++ [stream]⟩, .added u.streams.length, []⟩ := by
        simp [step, hout, bind, Except.bind, pure, Except.pure]
      have ht := hstep t
      rw [← h.length_eq, ← hgenerator] at ht
      exact unnoticed_of_ok (hstep s) ht (h.add s.generator stream)
  | fill i buffer frames => exact unnoticed_fill h i buffer frames
  | setDither i dither => exact unnoticed_setDither h hc dither

/-! ### Runs of calls -/

/-- The draws that the streams go on from, the oldest stream's first. -/
def continuations (s : Source) : List Int := s.streams.map (·.continuation)

theorem Alike.continuations_eq (h : Alike picked s t) : s.continuations = t.continuations := by
  apply List.ext_getElem?
  intro i
  have hi := congrArg (Option.map Stream.continuation) (h.streams i)
  simpa [continuations, Function.comp_def] using hi

/-- A call of a run as it is seen where the picked streams' output is not, with what it leaves. -/
structure Sighting where
  call : Call
  answer : Except Fault (Reply × List Log.Event)
  generator : Generator
  continuations : List Int

/-- What is seen of a run. Switching a picked stream's dither is not seen at all. -/
def observed (picked : Nat → Bool) (s : Source) : List Call → List Sighting
  | [] => []
  | c :: calls =>
    if c.switches picked then (s.after c).observed picked calls
    else ⟨c, shown picked c (s.answer c), (s.after c).generator, (s.after c).continuations⟩ ::
      (s.after c).observed picked calls

/-- The calls of a run without those that switch a picked stream's dither. -/
def unswitched (picked : Nat → Bool) (calls : List Call) : List Call :=
  calls.filter fun c => !c.switches picked

/-- Without the switches a run shows the same. The two sources stay alike call by call; at a switch
the one takes a step that the other does not. -/
theorem observed_unswitched (h : Alike picked s t) (calls : List Call) :
    s.observed picked calls = t.observed picked (unswitched picked calls) ∧
      Alike picked (s.run calls) (t.run (unswitched picked calls)) := by
  induction calls generalizing s t with
  | nil => exact ⟨rfl, h⟩
  | cons c calls ih =>
    cases hc : c.switches picked with
    | true =>
      have hskip : unswitched picked (c :: calls) = unswitched picked calls := by
        simp [unswitched, hc]
      have hseen : s.observed picked (c :: calls) = (s.after c).observed picked calls := by
        simp [observed, hc]
      rw [hskip, hseen]
      exact ih ((alike_after_switch hc).trans h)
    | false =>
      have hkeep : unswitched picked (c :: calls) = c :: unswitched picked calls := by
        simp [unswitched, hc]
      obtain ⟨hshown, halike⟩ := unnoticed h hc
      obtain ⟨hseen, hrun⟩ := ih halike
      refine ⟨?_, ?_⟩
      · simp only [hkeep, observed, hc, hshown, halike.generator, halike.continuations_eq, hseen]
      · rw [hkeep]
        exact hrun

/-- Two runs that differ in nothing but where they switch the picked streams' dither show the
same. -/
theorem observed_congr (h : Alike picked s t) {calls others : List Call}
    (hcalls : unswitched picked calls = unswitched picked others) :
    s.observed picked calls = t.observed picked others ∧
      Alike picked (s.run calls) (t.run others) := by
  obtain ⟨hseen, hrun⟩ := observed_unswitched h calls
  obtain ⟨hseen', hrun'⟩ := observed_unswitched (Alike.refl picked t) others
  rw [hcalls] at hseen hrun
  exact ⟨hseen.trans hseen'.symm, hrun.trans hrun'.symm⟩

end Source

/-! ### Rendering and drawing -/

/-- The bytes of a fill do not hang on what was in the buffer, and without dither not on the
generator and the draw before either. -/
theorem fills_write_alike {f : Format} {l : Layout} (hl : f.layout? = some l) {g₁ g₂ : Generator}
    {b₁ b₂ : List UInt8} {frames : Nat} {dither : Bool} {c₁ c₂ : Int} {out₁ out₂ : Filled}
    (h₁ : fill g₁ b₁ frames f dither c₁ = .ok out₁) (h₂ : fill g₂ b₂ frames f dither c₂ = .ok out₂)
    (hsame : dither = true → g₁ = g₂ ∧ c₁ = c₂) :
    out₁.buffer.take (extent l frames) = out₂.buffer.take (extent l frames) := by
  rw [take_extent_of_fill hl h₁, take_extent_of_fill hl h₂]
  cases dither with
  | true =>
    obtain ⟨rfl, rfl⟩ := hsame rfl
    rfl
  | false => rw [sampled_undithered, sampled_undithered]

/-- Formats of one depth hold the same samples. -/
theorem fills_decode_alike {f₁ f₂ : Format} {l₁ l₂ : Layout} (hl₁ : f₁.layout? = some l₁)
    (hl₂ : f₂.layout? = some l₂) (hdepth : l₁.bitDepth = l₂.bitDepth) {g : Generator}
    {b₁ b₂ : List UInt8} {frames : Nat} {dither : Bool} {continuation : Int} {out₁ out₂ : Filled}
    (h₁ : fill g b₁ frames f₁ dither continuation = .ok out₁)
    (h₂ : fill g b₂ frames f₂ dither continuation = .ok out₂) {k : Nat} (hk : k < 2 * frames) :
    ∃ x, Pcm.decode f₁ (out₁.buffer.drop (k * l₁.byteWidth)) = .ok x ∧
      Pcm.decode f₂ (out₂.buffer.drop (k * l₂.byteWidth)) = .ok x := by
  have hk₁ : k < (sampled g frames l₁ dither continuation).length := by
    rw [length_sampled]
    exact hk
  have hk₂ : k < (sampled g frames l₂ dither continuation).length := by
    rw [length_sampled]
    exact hk
  refine ⟨_, decode_of_fill hl₁ h₁ hk₁, ?_⟩
  rw [decode_of_fill hl₂ h₂ hk₂]
  simp only [sampled_congr hdepth]

/-- Without dither each slot holds what a zero is written as. -/
theorem undithered_fill_holds_zeros {f : Format} {l : Layout} (hl : f.layout? = some l)
    {g : Generator} {buffer : List UInt8} {frames : Nat} {continuation : Int} {out : Filled}
    (h : fill g buffer frames f false continuation = .ok out) {k : Nat} (hk : k < 2 * frames)
    {room : List UInt8} (hroom : room.length = l.byteWidth) :
    Pcm.encode f room 0 = .ok ((out.buffer.drop (k * l.byteWidth)).take l.byteWidth) := by
  have hk' : k < (sampled g frames l false continuation).length := by
    rw [length_sampled]
    exact hk
  have hslot := encode_of_fill hl h hk' hroom
  have hzero : (sampled g frames l false continuation)[k] = 0 := by
    simp only [sampled_undithered, List.getElem_replicate]
  rwa [hzero] at hslot

/-- How silence is rendered steers none of the draws. Fills of as many frames from one generator
leave it as many draws on and end with the same draw, whatever they write. What they write does not
hang on what was in the buffer; without dither it is zeros whatever is drawn, and with the same
draws it is the same samples in every format of one depth. So where the dither of some streams is
switched in a run, and how often, is seen in no generator, in no draw to go on from and in nothing
that is written for another stream. -/
theorem rendering_steers_no_draw :
    (∀ (g : Generator) (frames : Nat), 0 < frames →
      ∀ (b₁ b₂ : List UInt8) (f₁ f₂ : Format) (dither₁ dither₂ : Bool) (c₁ c₂ : Int)
        (out₁ out₂ : Filled),
        fill g b₁ frames f₁ dither₁ c₁ = .ok out₁ → fill g b₂ frames f₂ dither₂ c₂ = .ok out₂ →
        out₁.generator = g.advance (2 * frames) ∧ out₂.generator = out₁.generator ∧
          out₂.continuation = out₁.continuation) ∧
    (∀ (f : Format) (l : Layout), f.layout? = some l →
      ∀ (g₁ g₂ : Generator) (b₁ b₂ : List UInt8) (frames : Nat) (dither : Bool) (c₁ c₂ : Int)
        (out₁ out₂ : Filled),
        fill g₁ b₁ frames f dither c₁ = .ok out₁ → fill g₂ b₂ frames f dither c₂ = .ok out₂ →
        (dither = true → g₁ = g₂ ∧ c₁ = c₂) →
        out₁.buffer.take (extent l frames) = out₂.buffer.take (extent l frames)) ∧
    (∀ (f : Format) (l : Layout), f.layout? = some l →
      ∀ (g : Generator) (buffer : List UInt8) (frames : Nat) (continuation : Int) (out : Filled),
        fill g buffer frames f false continuation = .ok out →
        ∀ k < 2 * frames, ∀ room : List UInt8, room.length = l.byteWidth →
          Pcm.encode f room 0 =
            .ok ((out.buffer.drop (k * l.byteWidth)).take l.byteWidth)) ∧
    (∀ (f₁ f₂ : Format) (l₁ l₂ : Layout), f₁.layout? = some l₁ → f₂.layout? = some l₂ →
      l₁.bitDepth = l₂.bitDepth →
      ∀ (g : Generator) (b₁ b₂ : List UInt8) (frames : Nat) (dither : Bool) (continuation : Int)
        (out₁ out₂ : Filled),
        fill g b₁ frames f₁ dither continuation = .ok out₁ →
        fill g b₂ frames f₂ dither continuation = .ok out₂ →
        ∀ k < 2 * frames, ∃ x, Pcm.decode f₁ (out₁.buffer.drop (k * l₁.byteWidth)) = .ok x ∧
          Pcm.decode f₂ (out₂.buffer.drop (k * l₂.byteWidth)) = .ok x) ∧
    (∀ (picked : Nat → Bool) (s t : Source) (calls others : List Source.Call),
      Source.Alike picked s t →
      Source.unswitched picked calls = Source.unswitched picked others →
      s.observed picked calls = t.observed picked others ∧
        (s.run calls).generator = (t.run others).generator ∧
        (s.run calls).continuations = (t.run others).continuations ∧
        ∀ i, picked i = false → (s.run calls).streams[i]? = (t.run others).streams[i]?) := by
  refine ⟨?_, ?_, ?_, ?_, ?_⟩
  · intro g frames hframes b₁ b₂ f₁ f₂ dither₁ dither₂ c₁ c₂ out₁ out₂ h₁ h₂
    exact fills_advance_alike hframes h₁ h₂
  · intro f l hl g₁ g₂ b₁ b₂ frames dither c₁ c₂ out₁ out₂ h₁ h₂ hsame
    exact fills_write_alike hl h₁ h₂ hsame
  · intro f l hl g buffer frames continuation out h k hk room hroom
    exact undithered_fill_holds_zeros hl h hk hroom
  · intro f₁ f₂ l₁ l₂ hl₁ hl₂ hdepth g b₁ b₂ frames dither continuation out₁ out₂ h₁ h₂ k hk
    exact fills_decode_alike hl₁ hl₂ hdepth h₁ h₂ hk
  · intro picked s t calls others halike hcalls
    obtain ⟨hseen, hrun⟩ := Source.observed_congr halike hcalls
    exact ⟨hseen, hrun.generator, hrun.continuations_eq, fun i hi => hrun.stream_eq hi⟩

/-- One frame of two bytes a sample, dithered, and one of three bytes a sample, not dithered, end
with the same draw. In slots of three bytes and of four the samples of one frame are the same. And a
stream's dither may be switched before another stream is filled. -/
theorem rendering_steers_no_draw_two_streams :
    let g : Generator := ⟨1, 2, 3, 4⟩
    let narrow := fill g (List.replicate 4 9) 1 .s16 true 0
    let plain := fill g (List.replicate 7 5) 1 .s24le3 false (-3)
    let packed := fill g (List.replicate 6 0) 1 .s24le3 true 0
    let wide := fill g (List.replicate 8 1) 1 .s24 true 0
    let stream : Stream := ⟨.s16be, rfl, true, 0⟩
    let s : Source := ⟨g, [stream, stream]⟩
    let other := Source.Call.fill 1 (List.replicate 4 9) 1
    (∃ out₁ out₂, narrow = .ok out₁ ∧ plain = .ok out₂ ∧ out₂.generator = out₁.generator ∧
      out₂.continuation = out₁.continuation) ∧
    (∃ out₁ out₂ x, packed = .ok out₁ ∧ wide = .ok out₂ ∧
      Pcm.decode .s24le3 (out₁.buffer.drop 3) = .ok x ∧
      Pcm.decode .s24 (out₂.buffer.drop 4) = .ok x) ∧
    s.observed (· == 0) [.setDither 0 false, other] = s.observed (· == 0) [other] := by
  intro g narrow plain packed wide stream s other
  obtain ⟨hadvance, -, -, hdecode, hruns⟩ := rendering_steers_no_draw
  have hnarrow : narrow = .ok _ := (fill_eq_ok_iff _ _ _ _ _ _ _).mpr
    ⟨_, rfl, by decide, by decide, rfl⟩
  have hplain : plain = .ok _ := (fill_eq_ok_iff _ _ _ _ _ _ _).mpr
    ⟨_, rfl, by decide, by decide, rfl⟩
  have hpacked : packed = .ok _ := (fill_eq_ok_iff _ _ _ _ _ _ _).mpr
    ⟨_, rfl, by decide, by decide, rfl⟩
  have hwide : wide = .ok _ := (fill_eq_ok_iff _ _ _ _ _ _ _).mpr
    ⟨_, rfl, by decide, by decide, rfl⟩
  obtain ⟨-, hgenerator, hcontinuation⟩ :=
    hadvance g 1 (by decide) _ _ _ _ _ _ _ _ _ _ hnarrow hplain
  obtain ⟨x, hx, hx'⟩ :=
    hdecode .s24le3 .s24 _ _ rfl rfl rfl g _ _ 1 true 0 _ _ hpacked hwide 1 (by decide)
  obtain ⟨hseen, -⟩ := hruns (· == 0) s s [.setDither 0 false, other] [other] (.refl _ s) rfl
  exact ⟨⟨_, _, hnarrow, hplain, hgenerator, hcontinuation⟩, ⟨_, _, x, hpacked, hwide, hx, hx'⟩,
    hseen⟩

end Hush.Silence
