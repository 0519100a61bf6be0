import Hush.Proofs.Config.Usable
import Hush.Proofs.Silence.Filling

/-!
# Buffers for accepted settings

How many frames a buffer holds is not looked at before settings are handed out. So settings that are
accepted may ask for a buffer whose size no word holds, and a report under them then stops where it
sizes its buffer.
-/
namespace Hush.Report

variable {c : Config}

/-- What sizing a buffer comes to for settings that can be used. -/
theorem bufferLength_of_usable (h : c.Usable) {l : Layout}
    (hl : c.output.format.layout? = some l) {stream : Silence.Stream}
    (hstream : Silence.Stream.create c.output.format c.output.dither = .ok stream) (frames : Nat) :
    stream.bufferLength frames =
      if Silence.extent l frames < sizeLimit then .ok (Silence.extent l frames)
      else .error (.sizeOverflow frames c.output.format) := by
  rw [create_of_usable h] at hstream
  cases hstream
  exact Silence.requiredLength_of_layout hl frames

/-- No silence is written where the buffer cannot be sized, and the report ends there. -/
theorem underSettings_of_overflow (h : c.Usable) {stream : Silence.Stream}
    (hstream : Silence.Stream.create c.output.format c.output.dither = .ok stream) {e : Fault}
    (hlength : stream.bufferLength c.output.framesPerBuffer.toNat = .error e) (machine : Machine)
    (s : Log.Session) : (underSettings c machine s).ok = false := by
  obtain ⟨told, htold⟩ := underSettings_of_usable h machine s
  have hsilence : silence c machine c.output.format told = none := by
    rw [silence, hstream]
    show (stream.bufferLength c.output.framesPerBuffer.toNat).toOption.bind _ = none
    rw [hlength]
    rfl
  rw [htold, hsilence]

/-- The stream of accepted settings is made. Its buffer is sized exactly when a word counts the
bytes of the frames; otherwise sizing it is at fault and the report ends there. -/
theorem buffer_sized_iff_word_counts {text : String} (h : Config.ofText text = .ok c) :
    let f := c.output.format
    let frames := c.output.framesPerBuffer.toNat
    ∃ l stream, f.layout? = some l ∧ Silence.Stream.create f c.output.dither = .ok stream ∧
      (Silence.extent l frames < sizeLimit →
        f.bytesForFrames frames = .ok (some (Silence.extent l frames)) ∧
          stream.bufferLength frames = .ok (Silence.extent l frames)) ∧
      (sizeLimit ≤ Silence.extent l frames →
        f.bytesForFrames frames = .ok none ∧
          stream.bufferLength frames = .error (.sizeOverflow frames f) ∧
          ∀ machine s, (underSettings c machine s).ok = false) := by
  intro f frames
  have husable : c.Usable := ((Config.ofText_eq_ok_iff text c).mp h).2
  obtain ⟨l, hl⟩ := (Format.isConcrete_iff f).mp husable.concrete
  have hstream := create_of_usable husable
  have hbytes := Silence.bytesForFrames_of_layout hl frames
  have hlength := bufferLength_of_usable husable hl hstream frames
  refine ⟨l, _, hl, hstream, ?_, ?_⟩
  · intro hfit
    rw [if_pos hfit] at hbytes hlength
    exact ⟨hbytes, hlength⟩
  · intro hlong
    rw [if_neg (Nat.not_lt.mpr hlong)] at hbytes hlength
    exact ⟨hbytes, hlength, underSettings_of_overflow husable hstream hlength⟩

/-- The most frames of one byte a sample that a word can size are accepted and sized. -/
theorem buffer_sized_iff_word_counts_bytes :
    let text := "[output]\nformat = \"S8\"\nframes_per_buffer = 9223372036854775807\n"
    let c : Config := { output := { format := .s8, framesPerBuffer := 9223372036854775807 } }
    Config.ofText text = .ok c ∧
      c.output.format.bytesForFrames c.output.framesPerBuffer.toNat =
        .ok (some 18446744073709551614) := by
  intro text c
  have hspells : Config.Spells text c := by decide +kernel
  have husable : c.Usable := by decide
  have haccepted : Config.ofText text = .ok c :=
    (Config.ofText_eq_ok_iff text c).mpr ⟨hspells, husable⟩
  obtain ⟨l, stream, hl, -, hfits, -⟩ := buffer_sized_iff_word_counts haccepted
  cases hl
  have hextent : Silence.extent ⟨8, 1, .native, true, .none⟩ c.output.framesPerBuffer.toNat =
      18446744073709551614 := by decide +kernel
  have hfit : 18446744073709551614 < sizeLimit := by decide
  rw [hextent] at hfits
  exact ⟨haccepted, (hfits hfit).1⟩

/-- As many frames of two bytes a sample are beyond what a word counts, and settings that ask for
them are accepted all the same. -/
theorem accepted_buffer_without_size :
    let text := "[output]\nframes_per_buffer = 9223372036854775807\n"
    let c : Config := { output := { framesPerBuffer := 9223372036854775807 } }
    let stream : Silence.Stream := ⟨.s16, rfl, true, 0⟩
    Config.ofText text = .ok c ∧
      c.output.format.bytesForFrames c.output.framesPerBuffer.toNat = .ok none ∧
      Silence.Stream.create c.output.format c.output.dither = .ok stream ∧
      stream.bufferLength c.output.framesPerBuffer.toNat =
        .error (.sizeOverflow 9223372036854775807 .s16) := by
  intro text c stream
  have hspells : Config.Spells text c := by decide +kernel
  have husable : c.Usable := by decide
  have hstream := create_of_usable husable
  have hlong : ¬ Silence.extent ⟨16, 2, .native, true, .none⟩ c.output.framesPerBuffer.toNat <
      sizeLimit := by decide +kernel
  have hbytes := Silence.bytesForFrames_of_layout (f := .s16) rfl c.output.framesPerBuffer.toNat
  have hlength := bufferLength_of_usable husable rfl hstream c.output.framesPerBuffer.toNat
  rw [if_neg hlong] at hbytes hlength
  exact ⟨(Config.ofText_eq_ok_iff text c).mpr ⟨hspells, husable⟩, hbytes, hstream, hlength⟩

end Hush.Report
