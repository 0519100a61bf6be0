import Hush.Report

/-!
# Settings that can be used

No run goes on under settings that cannot be used. What a text spells is looked at before it is
handed out, the file that is there first is never passed over for the other one, and the defaults
that are taken when there are no settings can be used themselves.
-/
namespace Hush

namespace Config
open Toml

/-- Settings that can be used have a format with a layout, and a range that is not upside down. -/
structure Usable (c : Config) : Prop where
  concrete : c.output.format.isConcrete = true
  ordered : c.volume.minDb ≤ c.volume.maxDb

theorem usable_iff (c : Config) :
    c.Usable ↔ c.output.format.isConcrete = true ∧ c.volume.minDb ≤ c.volume.maxDb :=
  ⟨fun h => ⟨h.concrete, h.ordered⟩, fun h => ⟨h.1, h.2⟩⟩

instance (c : Config) : Decidable c.Usable := decidable_of_iff _ (usable_iff c).symm

theorem usable_default : Usable {} := by decide

/-- What makes settings unusable that are so; the format comes first. -/
def trouble (c : Config) : Unusable :=
  if c.output.format.isConcrete then .range ⟨c.volume.maxDb, c.volume.minDb⟩
  else .format c.output.format

variable {c : Config}

theorem concreteFormat_of_usable (h : c.Usable) :
    c.output.concreteFormat = .ok c.output.format := by
  rw [OutputSettings.concreteFormat, if_pos h.concrete]

theorem range_of_usable (h : c.Usable) :
    c.volume.range = .ok ⟨c.volume.maxDb, c.volume.minDb, h.ordered⟩ := by
  rw [VolumeSettings.range, Volume.Range.ofBounds, dif_pos h.ordered]
  rfl

theorem validate_of_usable (h : c.Usable) : c.validate = .ok () := by
  rw [validate, concreteFormat_of_usable h, range_of_usable h]
  rfl

theorem validate_of_not_usable (h : ¬ c.Usable) : c.validate = .error c.trouble := by
  unfold validate trouble
  by_cases hconcrete : c.output.format.isConcrete = true
  · have hinverted : ¬ c.volume.minDb ≤ c.volume.maxDb := fun hordered =>
      h ⟨hconcrete, hordered⟩
    rw [OutputSettings.concreteFormat, if_pos hconcrete, VolumeSettings.range,
      Volume.Range.ofBounds, dif_neg hinverted, if_pos hconcrete]
    rfl
  · rw [OutputSettings.concreteFormat, if_neg hconcrete, if_neg hconcrete]
    rfl

/-! ### What a text spells -/

/-- The settings that a root table spells. -/
def spelledBy (t : Entries Value) : Except Misfit Config :=
  Value.asRecord.ofFields ["output", "volume", "dither", "logging"] ofTable t

theorem ofRoot_eq (t : Entries Value) :
    ofRoot t = (do
      let c ← (spelledBy t).mapError fun m => .misfit m none
      c.validate.mapError .unusable
      return c) := rfl

/-- What is left to do with settings that a root table spells. -/
theorem ofRoot_of_spelledBy {t : Entries Value} (h : spelledBy t = .ok c) :
    ofRoot t = (do
      c.validate.mapError .unusable
      return c) := by
  rw [ofRoot_eq, h]
  rfl

/-- The text is a document that spells the settings, whether they can be used or not. -/
def Spells (text : String) (c : Config) : Prop :=
  ∃ d, Document.read text = .ok d ∧ spelledBy d.table = .ok c

/-- What a text spells can be worked out. -/
theorem spells_iff (text : String) (c : Config) :
    Spells text c ↔
      ((Document.read text).toOption.bind fun d => (spelledBy d.table).toOption) = some c := by
  unfold Spells
  cases hd : Document.read text with
  | error flaw => simp [Except.toOption]
  | ok d => cases hc : spelledBy d.table <;> simp [Except.toOption, hc]

instance (text : String) (c : Config) : Decidable (Spells text c) :=
  decidable_of_iff _ (spells_iff text c).symm

/-- Once a document is read, what comes of it is what comes of its root table. -/
theorem ofText_of_read {text : String} {d : Document} (h : Document.read text = .ok d) :
    ofText text = (ofRoot d.table).mapError (·.placedIn d) := by
  rw [ofText, h]
  rfl

/-- Of settings that a text spells nothing is left to find out but whether they can be used. -/
theorem ofText_of_spells {text : String} (h : Spells text c) :
    ofText text = if c.Usable then .ok c else .error (.unusable c.trouble) := by
  obtain ⟨d, hd, hc⟩ := h
  rw [ofText_of_read hd]
  by_cases husable : c.Usable
  · have hroot : ofRoot d.table = .ok c := by
      rw [ofRoot_of_spelledBy hc, validate_of_usable husable]
      rfl
    rw [hroot, if_pos husable]
    rfl
  · have hroot : ofRoot d.table = .error (.unusable c.trouble) := by
      rw [ofRoot_of_spelledBy hc, validate_of_not_usable husable]
      rfl
    rw [hroot, if_neg husable]
    rfl

/-- A text that spells no settings is rejected as it is read, and not for settings that cannot be
used. -/
theorem ofText_of_not_spells {text : String} (h : ∀ c, ¬ Spells text c) :
    ∃ why, ofText text = .error why ∧ ∀ cause, why ≠ .unusable cause := by
  cases hd : Document.read text with
  | error flaw =>
    have hwhole : ofText text = .error (.malformed flaw) := by
      rw [ofText, hd]
      rfl
    refine ⟨_, hwhole, ?_⟩
    intro cause hcause
    cases hcause
  | ok d =>
    cases hc : spelledBy d.table with
    | ok c => exact absurd ⟨d, hd, hc⟩ (h c)
    | error m =>
      have hroot : ofRoot d.table = .error (.misfit m none) := by
        rw [ofRoot_eq, hc]
        rfl
      have hwhole : ofText text = .error (.misfit m (d.spanAt? m.steps)) := by
        rw [ofText_of_read hd, hroot]
        rfl
      refine ⟨_, hwhole, ?_⟩
      intro cause hcause
      cases hcause

theorem ofText_eq_ok_iff (text : String) (c : Config) :
    ofText text = .ok c ↔ Spells text c ∧ c.Usable := by
  constructor
  · intro hok
    by_cases hspells : ∃ c', Spells text c'
    · obtain ⟨c', hc'⟩ := hspells
      have hwhole := ofText_of_spells hc'
      rw [hok] at hwhole
      by_cases husable : c'.Usable
      · rw [if_pos husable] at hwhole
        cases hwhole
        exact ⟨hc', husable⟩
      · rw [if_neg husable] at hwhole
        cases hwhole
    · obtain ⟨why, hwhy, -⟩ := ofText_of_not_spells fun c' hc' => hspells ⟨c', hc'⟩
      rw [hok] at hwhy
      cases hwhy
  · rintro ⟨hspells, husable⟩
    rw [ofText_of_spells hspells, if_pos husable]

/-! ### Where settings come from -/

/-- The file that is there first settles what is loaded. -/
theorem load_eq (files : Files) :
    load files =
      if files.holds "config.toml" then ofFile files "config.toml"
      else if files.holds "config.default.toml" then ofFile files "config.default.toml"
      else .error .missing := by
  unfold load path? paths
  cases hfirst : files.holds "config.toml" with
  | true => simp [hfirst]
  | false =>
    cases hsecond : files.holds "config.default.toml" with
    | true => simp [hfirst, hsecond]
    | false => simp [hfirst, hsecond]

/-- A file that cannot be read, a blank one and one whose text is rejected are each reported as
such; nothing else keeps its settings back. -/
theorem ofFile_eq (files : Files) (path : String) :
    ofFile files path =
      match files.readText path with
      | .error cause => .error (.unreadable path cause)
      | .ok text =>
        if Text.isAllBlank text then .error (.empty path)
        else (ofText text).mapError (.rejected text) := by
  rw [ofFile]
  cases files.readText path with
  | error cause => rfl
  | ok text =>
    show (if Text.isAllBlank text then _ else _) = if Text.isAllBlank text then _ else _
    split <;> rfl

/-- The settings in a file are those that its text gives. -/
theorem text_of_ofFile {files : Files} {path : String} (h : ofFile files path = .ok c) :
    ∃ text, files.readText path = .ok text ∧ ofText text = .ok c := by
  rw [ofFile_eq] at h
  cases hread : files.readText path with
  | error e =>
    rw [hread] at h
    cases h
  | ok text =>
    refine ⟨text, rfl, ?_⟩
    simp only [hread] at h
    split at h
    · cases h
    · cases hc : ofText text with
      | error why =>
        rw [hc] at h
        cases h
      | ok c' =>
        rw [hc] at h
        cases h
        rfl

/-- Settings that were loaded can be used. -/
theorem usable_of_load {files : Files} (h : load files = .ok c) : c.Usable := by
  have hfile : ∃ path, ofFile files path = .ok c := by
    rw [load_eq] at h
    split at h
    · exact ⟨_, h⟩
    · split at h
      · exact ⟨_, h⟩
      · cases h
  obtain ⟨path, hpath⟩ := hfile
  obtain ⟨text, -, htext⟩ := text_of_ofFile hpath
  exact ((ofText_eq_ok_iff text c).mp htext).2

end Config

namespace Report

theorem usable_settings (files : Files) : (settings files).1.Usable := by
  unfold settings
  cases h : Config.load files with
  | ok c => exact Config.usable_of_load h
  | error e => exact Config.usable_default

variable {c : Config}

theorem create_of_usable (h : c.Usable) :
    Silence.Stream.create c.output.format c.output.dither =
      .ok ⟨c.output.format, h.concrete, c.output.dither, 0⟩ := by
  rw [Silence.Stream.create, dif_pos h.concrete]

/-- A report under settings that can be used comes as far as the silence. -/
theorem underSettings_of_usable (h : c.Usable) (machine : Machine) (s : Log.Session) :
    ∃ told, underSettings c machine s =
      match silence c machine c.output.format told with
      | some s' => ⟨true, s'⟩
      | none => ⟨false, told⟩ := by
  unfold underSettings
  rw [Config.range_of_usable h, Config.concreteFormat_of_usable h]
  exact ⟨_, rfl⟩

/-- Whatever a directory holds, a run uses settings whose format has a layout and whose range is not
upside down. Neither its range nor its format then stops it, and its stream is made. A text gives
settings exactly when it spells them and they can be used; spelled settings that cannot be are
reported by their format or else by their two bounds. The second file is looked at only where
nothing stands at the path of the first, and a file gives what its text gives, unless it cannot be
read or is blank. Where nothing is given a run takes the defaults. -/
theorem settings_are_always_usable :
    (∀ files : Files, let c := (settings files).1
      (c.output.format.isConcrete = true ∧ c.volume.minDb ≤ c.volume.maxDb) ∧
      (∃ range, c.volume.range = .ok range) ∧
      c.output.concreteFormat = .ok c.output.format ∧
      (∃ stream, Silence.Stream.create c.output.format c.output.dither = .ok stream) ∧
      ∀ machine s, ∃ told, underSettings c machine s =
        match silence c machine c.output.format told with
        | some s' => ⟨true, s'⟩
        | none => ⟨false, told⟩) ∧
    (∀ text c, Config.ofText text = .ok c ↔
      Config.Spells text c ∧ c.output.format.isConcrete = true ∧
        c.volume.minDb ≤ c.volume.maxDb) ∧
    (∀ text c, Config.Spells text c → c.output.format.isConcrete = false →
      ∃ why, Config.ofText text = .error (.unusable why) ∧ why = .format c.output.format ∧
        why.message =
          "sample format \"" ++ c.output.format.name ++ "\" cannot be used for output") ∧
    (∀ text c, Config.Spells text c → c.output.format.isConcrete = true →
      c.volume.maxDb < c.volume.minDb →
      Config.ofText text = .error (.unusable (.range ⟨c.volume.maxDb, c.volume.minDb⟩))) ∧
    (∀ text, (∀ c, ¬ Config.Spells text c) →
      ∃ why, Config.ofText text = .error why ∧ ∀ cause, why ≠ .unusable cause) ∧
    (∀ files, Config.load files =
      if files.holds "config.toml" then Config.ofFile files "config.toml"
      else if files.holds "config.default.toml" then Config.ofFile files "config.default.toml"
      else .error .missing) ∧
    (∀ files path, Config.ofFile files path =
      match files.readText path with
      | .error cause => .error (.unreadable path cause)
      | .ok text =>
        if Text.isAllBlank text then .error (.empty path)
        else (Config.ofText text).mapError (.rejected text)) ∧
    (∀ files, settings files =
      match Config.load files with
      | .ok c => (c, none)
      | .error trouble => ({}, some trouble)) := by
  refine ⟨?_, ?_, ?_, ?_, fun text h => Config.ofText_of_not_spells h, Config.load_eq,
    Config.ofFile_eq, fun _ => rfl⟩
  · intro files c
    have h : c.Usable := usable_settings files
    exact ⟨⟨h.concrete, h.ordered⟩, ⟨_, Config.range_of_usable h⟩,
      Config.concreteFormat_of_usable h, ⟨_, create_of_usable h⟩, underSettings_of_usable h⟩
  · intro text c
    rw [Config.ofText_eq_ok_iff, Config.usable_iff]
  · intro text c hspells hplaceholder
    have hunusable : ¬ c.Usable := by
      intro h
      rw [h.concrete] at hplaceholder
      cases hplaceholder
    have htrouble : c.trouble = .format c.output.format := by
      simp [Config.trouble, hplaceholder]
    refine ⟨_, ?_, htrouble, ?_⟩
    · rw [Config.ofText_of_spells hspells, if_neg hunusable]
    · rw [htrouble]
      rfl
  · intro text c hspells hconcrete hinverted
    have hunusable : ¬ c.Usable := fun h => Int64.not_le.mpr hinverted h.ordered
    rw [Config.ofText_of_spells hspells, if_neg hunusable, Config.trouble, if_pos hconcrete]

/-- A lower bound that is left out may lie above the upper bound that is given. -/
theorem settings_are_always_usable_half_given :
    let text := "[volume]\nmax_db = -7000\n"
    let c : Config := { volume := { maxDb := -7000 } }
    (Config.Spells text c ∧ c.output.format.isConcrete = true ∧
      c.volume.maxDb < c.volume.minDb) ∧
    Config.ofText text = .error (.unusable (.range ⟨-7000, -6000⟩)) := by
  intro text c
  have hspells : Config.Spells text c := by decide +kernel
  have hconcrete : c.output.format.isConcrete = true := by decide
  have hinverted : c.volume.maxDb < c.volume.minDb := by decide
  exact ⟨⟨hspells, hconcrete, hinverted⟩,
    settings_are_always_usable.2.2.2.1 text c hspells hconcrete hinverted⟩

end Report
end Hush
