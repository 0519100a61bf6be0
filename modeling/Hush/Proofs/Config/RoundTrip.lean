import Hush.Proofs.Config.Usable
import Hush.Proofs.Format.Names
import Hush.Proofs.Toml.Records

/-!
# Settings that are written and read back

Each record reads its own table back, field by field, and so do the settings as a whole. Whether
they can be used is then looked at as if they had never been written.
-/
namespace Hush.Config
open Toml

theorem formatOf_name (f : Format) : formatOf (.text f.name) = .ok f := by
  simp only [formatOf, Value.asText, bind, Except.bind, Format.parse_name]
  rfl

theorem profileOf_name (p : Volume.Profile) : profileOf (.text p.name) = .ok p := by
  cases p <;> rfl

/-- A field that is written only if there is something for it. -/
theorem field?_of_optional {α : Type} {t : Entries Value} {key : String} {write : α → Value}
    {read : Value → Except Misfit α} {given : Option α} (h : t.get? key = given.map write)
    (hread : ∀ a, read (write a) = .ok a) : field? t key read = .ok given := by
  cases given with
  | none => exact field_of_absent h
  | some a =>
    have hsome : (read (write a)).map some = .ok (some a) := by
      rw [hread a]
      rfl
    exact field_eq_ok h hsome

theorem get?_optional {α : Type} (key name : String) (write : α → Value) (given : Option α) :
    Entries.get? (LogSettings.optional key write given) name =
      if key = name then given.map write else none := by
  cases given with
  | none => simp [LogSettings.optional]
  | some a => simp [LogSettings.optional, Entries.get?_cons]

/-! ### Sections -/

namespace OutputSettings

theorem ofTable_toTable (s : OutputSettings) : ofTable s.toTable = .ok s := by
  have hdither : field s.toTable "dither" Value.asBoolean true = .ok s.dither :=
    field_eq_ok rfl rfl
  have hformat : field s.toTable "format" formatOf .s16 = .ok s.format :=
    field_eq_ok rfl (formatOf_name s.format)
  have hframes : field s.toTable "frames_per_buffer" Value.asSize defaultFramesPerBuffer =
      .ok s.framesPerBuffer :=
    field_eq_ok rfl (Value.asSize_toNat s.framesPerBuffer)
  rw [ofTable, hdither, hformat, hframes]
  rfl

theorem ofValue_toTable (s : OutputSettings) : ofValue (.table s.toTable) = .ok s := by
  have hknown : ∀ e ∈ s.toTable, e.1 ∈ ["format", "dither", "frames_per_buffer"] := by
    simp [toTable]
  rw [ofValue, Value.asRecord, Value.ofFields_of_known hknown, ofTable_toTable]

end OutputSettings

namespace VolumeSettings

theorem ofTable_toTable (s : VolumeSettings) : ofTable s.toTable = .ok s := by
  have hmax : field s.toTable "max_db" Value.asSigned64 Volume.defaultMaxDb = .ok s.maxDb :=
    field_eq_ok rfl (Value.asSigned64_toInt s.maxDb)
  have hmin : field s.toTable "min_db" Value.asSigned64 Volume.defaultMinDb = .ok s.minDb :=
    field_eq_ok rfl (Value.asSigned64_toInt s.minDb)
  have hprofile : field s.toTable "profile" profileOf .standard = .ok s.profile :=
    field_eq_ok rfl (profileOf_name s.profile)
  rw [ofTable, hmax, hmin, hprofile]
  rfl

theorem ofValue_toTable (s : VolumeSettings) : ofValue (.table s.toTable) = .ok s := by
  have hknown : ∀ e ∈ s.toTable, e.1 ∈ ["profile", "max_db", "min_db"] := by simp [toTable]
  rw [ofValue, Value.asRecord, Value.ofFields_of_known hknown, ofTable_toTable]

end VolumeSettings

namespace DitherSettings

theorem ofTable_toTable (s : DitherSettings) : ofTable s.toTable = .ok s := by
  have hget : s.toTable.get? "seed" = s.seed.map fun seed => .integer seed.toNat := by
    rw [toTable]
    cases s.seed <;> rfl
  rw [ofTable, field?_of_optional hget Value.asWord64_toNat]
  rfl

theorem ofValue_toTable (s : DitherSettings) : ofValue (.table s.toTable) = .ok s := by
  have hknown : ∀ e ∈ s.toTable, e.1 ∈ ["seed"] := by
    rw [toTable]
    cases s.seed <;> simp
  rw [ofValue, Value.asRecord, Value.ofFields_of_known hknown, ofTable_toTable]

end DitherSettings

namespace LogFileSettings

theorem ofTable_toTable (s : LogFileSettings) : ofTable s.toTable = .ok s := by
  have hlines : field s.toTable "max_lines" Value.asWord32 defaultMaxLines = .ok s.maxLines :=
    field_eq_ok rfl (Value.asWord32_toNat s.maxLines)
  have hpath : field? s.toTable "path" Value.asText = .ok (some s.path) := field_eq_ok rfl rfl
  rw [ofTable, hlines, neededField, hpath]
  rfl

theorem ofValue_toTable (s : LogFileSettings) : ofValue (.table s.toTable) = .ok s := by
  have hknown : ∀ e ∈ s.toTable, e.1 ∈ ["path", "max_lines"] := by simp [toTable]
  rw [ofValue, Value.asRecord, Value.ofFields_of_known hknown, ofTable_toTable]

end LogFileSettings

namespace LogSettings

theorem ofTable_toTable (s : LogSettings) : ofTable s.toTable = .ok s := by
  have hfile : s.toTable.get? "file" = s.file.map fun f => .table f.toTable := by
    simp [toTable, Entries.get?_append, get?_optional]
  have hfilters : s.toTable.get? "filters" = s.filters.map .text := by
    simp [toTable, Entries.get?_append, get?_optional]
  have hlevel : s.toTable.get? "level" = s.level.map .text := by
    simp [toTable, Entries.get?_append, get?_optional]
  rw [ofTable, field?_of_optional hfile LogFileSettings.ofValue_toTable,
    field?_of_optional hfilters fun _ => rfl, field?_of_optional hlevel fun _ => rfl]
  rfl

theorem mem_optional {α : Type} {key : String} {write : α → Value} {given : Option α}
    {e : String × Value} (h : e ∈ optional key write given) : e.1 = key := by
  cases given with
  | none => simp [optional] at h
  | some a =>
    simp only [optional, List.mem_singleton] at h
    rw [h]

theorem ofValue_toTable (s : LogSettings) : ofValue (.table s.toTable) = .ok s := by
  have hknown : ∀ e ∈ s.toTable, e.1 ∈ ["level", "filters", "file"] := by
    intro e he
    rcases List.mem_append.mp he with he | he
    · rcases List.mem_append.mp he with he | he
      · simp [mem_optional he]
      · simp [mem_optional he]
    · simp [mem_optional he]
  rw [ofValue, Value.asRecord, Value.ofFields_of_known hknown, ofTable_toTable]

end LogSettings

/-! ### All settings -/

variable (c : Config)

theorem ofTable_toTable : ofTable c.toTable = .ok c := by
  have hdither : field c.toTable "dither" DitherSettings.ofValue {} = .ok c.dither :=
    field_eq_ok rfl c.dither.ofValue_toTable
  have hlogging : c.toTable.get? "logging" = c.logging.map fun l => .table l.toTable := by
    simp [toTable, Entries.get?_cons, get?_optional]
  have houtput : field c.toTable "output" OutputSettings.ofValue {} = .ok c.output :=
    field_eq_ok rfl c.output.ofValue_toTable
  have hvolume : field c.toTable "volume" VolumeSettings.ofValue {} = .ok c.volume :=
    field_eq_ok rfl c.volume.ofValue_toTable
  rw [ofTable, hdither, field?_of_optional hlogging LogSettings.ofValue_toTable, houtput, hvolume]
  rfl

theorem spelledBy_toTable : spelledBy c.toTable = .ok c := by
  have hknown : ∀ e ∈ c.toTable, e.1 ∈ ["output", "volume", "dither", "logging"] := by
    intro e he
    rcases List.mem_append.mp he with he | he
    · simp only [List.mem_cons, List.not_mem_nil, or_false] at he
      rcases he with rfl | rfl | rfl <;> simp
    · simp [LogSettings.mem_optional he]
  rw [spelledBy, Value.ofFields_of_known hknown, ofTable_toTable]

/-! ### Whole numbers in a document -/

/-- The whole numbers among the settings are those that a document can hold. -/
structure Writable (c : Config) : Prop where
  framesPerBuffer : (c.output.framesPerBuffer.toNat : Int) < Value.signedEnd
  seed : ∀ seed, c.dither.seed = some seed → (seed.toNat : Int) < Value.signedEnd

theorem fitsWord_natCast (n : Nat) :
    Value.fitsWord n = true ↔ (n : Int) < Value.signedEnd := by
  have hlow : -Value.signedEnd ≤ (n : Int) := by
    have hpos : 0 ≤ Value.signedEnd := by decide
    omega
  simp [Value.fitsWord, hlow]

theorem fitsWord_toInt (n : Int64) : Value.fitsWord n.toInt = true := by
  have hlow : -Value.signedEnd ≤ n.toInt := n.le_toInt
  have hhigh : n.toInt < Value.signedEnd := n.toInt_lt
  simp [Value.fitsWord, hlow, hhigh]

theorem plain_output (s : OutputSettings) :
    Value.everyEntry Value.isPlain s.toTable = true ↔
      (s.framesPerBuffer.toNat : Int) < Value.signedEnd := by
  simp [OutputSettings.toTable, Value.everyEntry, Value.everyScalar, Value.isPlain,
    fitsWord_natCast]

theorem plain_volume (s : VolumeSettings) :
    Value.everyEntry Value.isPlain s.toTable = true := by
  simp [VolumeSettings.toTable, Value.everyEntry, Value.everyScalar, Value.isPlain,
    fitsWord_toInt]

theorem plain_dither (s : DitherSettings) :
    Value.everyEntry Value.isPlain s.toTable = true ↔
      ∀ seed, s.seed = some seed → (seed.toNat : Int) < Value.signedEnd := by
  rw [DitherSettings.toTable]
  cases s.seed with
  | none => simp [Value.everyEntry]
  | some seed => simp [Value.everyEntry, Value.everyScalar, Value.isPlain, fitsWord_natCast]

theorem plain_logFile (s : LogFileSettings) :
    Value.everyEntry Value.isPlain s.toTable = true := by
  have hlines : (s.maxLines.toNat : Int) < Value.signedEnd := by
    have hword := s.maxLines.toNat_lt
    have hend : Value.signedEnd = 9223372036854775808 := by decide
    omega
  simp [LogFileSettings.toTable, Value.everyEntry, Value.everyScalar, Value.isPlain,
    fitsWord_natCast, hlines]

theorem plain_logging (s : LogSettings) :
    Value.everyEntry Value.isPlain s.toTable = true := by
  obtain ⟨level, filters, file⟩ := s
  cases level <;> cases filters <;> cases file <;>
    simp [LogSettings.toTable, LogSettings.optional, Value.everyEntry, Value.everyScalar,
      Value.isPlain, plain_logFile]

theorem plain_toTable (c : Config) : (Value.table c.toTable).plain = true ↔ c.Writable := by
  have hlogging : Value.everyEntry Value.isPlain
      (LogSettings.optional "logging" (fun l => .table l.toTable) c.logging) = true := by
    cases c.logging with
    | none => rfl
    | some l => simp [LogSettings.optional, Value.everyEntry, Value.everyScalar, plain_logging]
  simp only [Value.plain, Value.everyScalar, toTable, List.cons_append, List.nil_append,
    Value.everyEntry, Bool.and_eq_true, plain_output, plain_volume, plain_dither, hlogging,
    true_and, and_true]
  exact ⟨fun h => ⟨h.1, h.2⟩, fun h => ⟨h.1, h.2⟩⟩

/-- Settings that are written are read back as they were, all of them, and not looked at otherwise
than before: what is wrong with them is found again, and nothing else is. Their table is one that a
document can hold when its whole numbers are. -/
theorem written_settings_read_back (c : Config) :
    ((Value.table c.toTable).plain = true ↔ c.Writable) ∧
    spelledBy c.toTable = .ok c ∧
    ofRoot c.toTable =
      match c.validate with
      | .ok () => .ok c
      | .error why => .error (.unusable why) := by
  refine ⟨plain_toTable c, spelledBy_toTable c, ?_⟩
  rw [ofRoot_of_spelledBy (spelledBy_toTable c)]
  cases c.validate <;> rfl

end Hush.Config
