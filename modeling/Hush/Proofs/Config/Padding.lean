import Hush.Proofs.Config.RoundTrip
import Mathlib.Logic.Relation

/-!
# Tables that are padded

A key with its default, an empty section, a key that names nothing, another order of the keys: none
of these is noticed, neither in settings nor in what is wrong with them. A padding is a number of
single steps, each in the root table or in the table of one section. A step leaves what a section
is read as, the section around it finds what it found before, and so on up to the root.
-/
namespace Hush.Config
open Toml

/-- The tables that settings are looked up in. -/
inductive Section where
  | root | output | volume | dither | logging | logFile

namespace Section

def keys : Section → List String
  | root => ["output", "volume", "dither", "logging"]
  | output => ["format", "dither", "frames_per_buffer"]
  | volume => ["profile", "max_db", "min_db"]
  | dither => ["seed"]
  | logging => ["level", "filters", "file"]
  | logFile => ["path", "max_lines"]

/-- What a key says that might as well not be there. -/
def defaults : Section → Entries Value
  | root => [("output", .table []), ("volume", .table []), ("dither", .table [])]
  | output =>
    [("format", .text "S16"), ("dither", .boolean true), ("frames_per_buffer", .integer 352)]
  | volume => [("profile", .text "standard"), ("max_db", .integer 0), ("min_db", .integer (-6000))]
  | dither | logging => []
  | logFile => [("max_lines", .integer 10000)]

/-- The keys that stand for sections themselves. -/
def subsections : Section → Entries Section
  | root => [("output", output), ("volume", volume), ("dither", dither), ("logging", logging)]
  | logging => [("file", logFile)]
  | output | volume | dither | logFile => []

/-- What a section says. -/
def Settings : Section → Type
  | root => Config
  | output => OutputSettings
  | volume => VolumeSettings
  | dither => DitherSettings
  | logging => LogSettings
  | logFile => LogFileSettings

/-- Reads the fields of a section. -/
def ofTable : (s : Section) → Entries Value → Except Misfit s.Settings
  | root => Config.ofTable
  | output => OutputSettings.ofTable
  | volume => VolumeSettings.ofTable
  | dither => DitherSettings.ofTable
  | logging => LogSettings.ofTable
  | logFile => LogFileSettings.ofTable

def read (s : Section) (t : Entries Value) : Except Misfit s.Settings :=
  Value.asRecord.ofFields s.keys s.ofTable t

/-- An entry that a section makes nothing of: a key with its default, or a key that names nothing
and stands for something that can be read. -/
inductive Idle (s : Section) : String → Value → Prop where
  | default {key : String} {v : Value} (h : s.defaults.get? key = some v) : Idle s key v
  | unnamed {key : String} {v : Value} (h : key ∉ s.keys) (hv : v.plain = true) : Idle s key v

/-- One step of padding a section: an idle entry is put somewhere under a new key, two neighbours
change places, or a section inside is padded by a step. -/
inductive Pads : Section → Entries Value → Entries Value → Prop where
  | put {s : Section} (front back : Entries Value) {key : String} {v : Value} (h : s.Idle key v)
      (hnew : (front ++ back).get? key = none) : Pads s (front ++ back) (front ++ (key, v) :: back)
  | swap {s : Section} (front back : Entries Value) {j k : String} (v w : Value) (h : j ≠ k) :
      Pads s (front ++ (j, v) :: (k, w) :: back) (front ++ (k, w) :: (j, v) :: back)
  | inside {s inner : Section} (front back : Entries Value) {t u : Entries Value} {key : String}
      (hkey : s.subsections.get? key = some inner) (h : Pads inner t u) :
      Pads s (front ++ (key, .table t) :: back) (front ++ (key, .table u) :: back)

/-! ### What a field finds -/

/-- A field finds no difference between two tables: they have the same at its key, or the second
one has the default that the first one leaves out, or there are sections with the same settings. -/
inductive Alike (s : Section) (t u : Entries Value) (key : String) : Prop where
  | same (h : t.get? key = u.get? key)
  | default {v : Value} (ht : t.get? key = none) (hv : s.defaults.get? key = some v)
      (hu : u.get? key = some v)
  | inside {inner : Section} {t' u' : Entries Value} (hkey : s.subsections.get? key = some inner)
      (ht : t.get? key = some (.table t')) (hu : u.get? key = some (.table u'))
      (h : inner.read t' = inner.read u')

variable {s : Section} {t u : Entries Value}

/-- A field finds no difference if it takes the default for its own and reads sections by what they
say. -/
theorem field_of_alike {α : Type} {key : String} {read : Value → Except Misfit α} {default : α}
    (h : s.Alike t u key) (hdefault : ∀ v, s.defaults.get? key = some v → read v = .ok default)
    (hinside : ∀ inner t' u', s.subsections.get? key = some inner →
      inner.read t' = inner.read u' → read (.table t') = read (.table u')) :
    field t key read default = field u key read default := by
  cases h with
  | same h => rw [field, field, h]
  | default ht hv hu => rw [field_of_absent ht, field_eq_ok hu (hdefault _ hv)]
  | inside hkey ht hu h => rw [field_of_get? ht, field_of_get? hu, hinside _ _ _ hkey h]

theorem setting_of_alike {α : Type} {key : String} {read : Value → Except Misfit α} {default : α}
    {v : Value} (h : s.Alike t u key) (hinside : s.subsections.get? key = none)
    (hdefault : s.defaults.get? key = some v) (hread : read v = .ok default) :
    field t key read default = field u key read default := by
  refine field_of_alike h ?_ ?_
  · intro w hw
    rw [hdefault, Option.some.injEq] at hw
    rw [← hw, hread]
  · intro inner t' u' hkey
    rw [hinside] at hkey
    cases hkey

theorem setting?_of_alike {α : Type} {key : String} {read : Value → Except Misfit α}
    (h : s.Alike t u key) (hinside : s.subsections.get? key = none)
    (hdefault : s.defaults.get? key = none) : field? t key read = field? u key read := by
  refine field_of_alike h ?_ ?_
  · intro v hv
    rw [hdefault] at hv
    cases hv
  · intro inner t' u' hkey
    rw [hinside] at hkey
    cases hkey

theorem subsection_of_alike {key : String} (inner : Section)
    {read : Value → Except Misfit inner.Settings} {default : inner.Settings} {v : Value}
    (h : s.Alike t u key)
    (hinside : s.subsections.get? key = some inner) (hread : ∀ t, read (.table t) = inner.read t)
    (hdefault : s.defaults.get? key = some v) (hempty : read v = .ok default) :
    field t key read default = field u key read default := by
  refine field_of_alike h ?_ ?_
  · intro w hw
    rw [hdefault, Option.some.injEq] at hw
    rw [← hw, hempty]
  · intro other t' u' hkey hsame
    rw [hinside, Option.some.injEq] at hkey
    subst hkey
    rw [hread, hread, hsame]

theorem subsection?_of_alike {key : String} (inner : Section)
    {read : Value → Except Misfit inner.Settings} (h : s.Alike t u key)
    (hinside : s.subsections.get? key = some inner) (hread : ∀ t, read (.table t) = inner.read t)
    (hdefault : s.defaults.get? key = none) : field? t key read = field? u key read := by
  refine field_of_alike h ?_ ?_
  · intro v hv
    rw [hdefault] at hv
    cases hv
  · intro other t' u' hkey hsame
    rw [hinside, Option.some.injEq] at hkey
    subst hkey
    rw [hread, hread, hsame]

/-! ### What a section finds -/

theorem output_of_alike (h : ∀ key ∈ output.keys, output.Alike t u key) :
    OutputSettings.ofTable t = OutputSettings.ofTable u := by
  have hdither : field t "dither" Value.asBoolean true = field u "dither" Value.asBoolean true :=
    setting_of_alike (h "dither" (by decide)) rfl rfl rfl
  have hformat : field t "format" formatOf .s16 = field u "format" formatOf .s16 :=
    setting_of_alike (h "format" (by decide)) rfl rfl (formatOf_name .s16)
  have hframes : field t "frames_per_buffer" Value.asSize defaultFramesPerBuffer =
      field u "frames_per_buffer" Value.asSize defaultFramesPerBuffer :=
    setting_of_alike (h "frames_per_buffer" (by decide)) rfl rfl
      (Value.asSize_toNat defaultFramesPerBuffer)
  rw [OutputSettings.ofTable, OutputSettings.ofTable, hdither, hformat, hframes]

theorem volume_of_alike (h : ∀ key ∈ volume.keys, volume.Alike t u key) :
    VolumeSettings.ofTable t = VolumeSettings.ofTable u := by
  have hmax : field t "max_db" Value.asSigned64 Volume.defaultMaxDb =
      field u "max_db" Value.asSigned64 Volume.defaultMaxDb :=
    setting_of_alike (h "max_db" (by decide)) rfl rfl (Value.asSigned64_toInt Volume.defaultMaxDb)
  have hmin : field t "min_db" Value.asSigned64 Volume.defaultMinDb =
      field u "min_db" Value.asSigned64 Volume.defaultMinDb :=
    setting_of_alike (h "min_db" (by decide)) rfl rfl (Value.asSigned64_toInt Volume.defaultMinDb)
  have hprofile : field t "profile" profileOf .standard = field u "profile" profileOf .standard :=
    setting_of_alike (h "profile" (by decide)) rfl rfl (profileOf_name .standard)
  rw [VolumeSettings.ofTable, VolumeSettings.ofTable, hmax, hmin, hprofile]

theorem dither_of_alike (h : ∀ key ∈ dither.keys, dither.Alike t u key) :
    DitherSettings.ofTable t = DitherSettings.ofTable u := by
  have hseed : field? t "seed" Value.asWord64 = field? u "seed" Value.asWord64 :=
    setting?_of_alike (h "seed" (by decide)) rfl rfl
  rw [DitherSettings.ofTable, DitherSettings.ofTable, hseed]

theorem logFile_of_alike (h : ∀ key ∈ logFile.keys, logFile.Alike t u key) :
    LogFileSettings.ofTable t = LogFileSettings.ofTable u := by
  have hlines : field t "max_lines" Value.asWord32 defaultMaxLines =
      field u "max_lines" Value.asWord32 defaultMaxLines :=
    setting_of_alike (h "max_lines" (by decide)) rfl rfl (Value.asWord32_toNat defaultMaxLines)
  have hpath : field? t "path" Value.asText = field? u "path" Value.asText :=
    setting?_of_alike (h "path" (by decide)) rfl rfl
  rw [LogFileSettings.ofTable, LogFileSettings.ofTable, neededField, neededField, hlines, hpath]

theorem logging_of_alike (h : ∀ key ∈ logging.keys, logging.Alike t u key) :
    LogSettings.ofTable t = LogSettings.ofTable u := by
  have hfile : field? t "file" LogFileSettings.ofValue = field? u "file" LogFileSettings.ofValue :=
    subsection?_of_alike logFile (h "file" (by decide)) rfl (fun _ => rfl) rfl
  have hfilters : field? t "filters" Value.asText = field? u "filters" Value.asText :=
    setting?_of_alike (h "filters" (by decide)) rfl rfl
  have hlevel : field? t "level" Value.asText = field? u "level" Value.asText :=
    setting?_of_alike (h "level" (by decide)) rfl rfl
  rw [LogSettings.ofTable, LogSettings.ofTable, hfile, hfilters, hlevel]

theorem root_of_alike (h : ∀ key ∈ root.keys, root.Alike t u key) :
    Config.ofTable t = Config.ofTable u := by
  have hdither : field t "dither" DitherSettings.ofValue {} =
      field u "dither" DitherSettings.ofValue {} :=
    subsection_of_alike dither (h "dither" (by decide)) rfl (fun _ => rfl) rfl rfl
  have hlogging : field? t "logging" LogSettings.ofValue = field? u "logging" LogSettings.ofValue :=
    subsection?_of_alike logging (h "logging" (by decide)) rfl (fun _ => rfl) rfl
  have houtput : field t "output" OutputSettings.ofValue {} =
      field u "output" OutputSettings.ofValue {} :=
    subsection_of_alike output (h "output" (by decide)) rfl (fun _ => rfl) rfl rfl
  have hvolume : field t "volume" VolumeSettings.ofValue {} =
      field u "volume" VolumeSettings.ofValue {} :=
    subsection_of_alike volume (h "volume" (by decide)) rfl (fun _ => rfl) rfl rfl
  rw [Config.ofTable, Config.ofTable, hdither, hlogging, houtput, hvolume]

theorem ofTable_of_alike (h : ∀ key ∈ s.keys, s.Alike t u key) : s.ofTable t = s.ofTable u := by
  cases s with
  | root => exact root_of_alike h
  | output => exact output_of_alike h
  | volume => exact volume_of_alike h
  | dither => exact dither_of_alike h
  | logging => exact logging_of_alike h
  | logFile => exact logFile_of_alike h

theorem read_of_alike (h : ∀ key ∈ s.keys, s.Alike t u key)
    (hstray : Value.strayTrouble? s.keys t = Value.strayTrouble? s.keys u) :
    s.read t = s.read u :=
  Value.ofFields_congr (ofTable_of_alike h) hstray

/-! ### Steps -/

theorem mem_keys_of_default {key : String} {v : Value} (h : s.defaults.get? key = some v) :
    key ∈ s.keys := by
  have hall : ∀ e ∈ s.defaults, e.1 ∈ s.keys := by cases s <;> simp [defaults, keys]
  exact hall _ (Entries.mem_of_get? h)

theorem mem_keys_of_subsection {inner : Section} {key : String}
    (h : s.subsections.get? key = some inner) : key ∈ s.keys := by
  have hall : ∀ e ∈ s.subsections, e.1 ∈ s.keys := by cases s <;> simp [subsections, keys]
  exact hall _ (Entries.mem_of_get? h)

variable {front back : Entries Value} {key : String}

/-- Where a key is new, its default stands for what it left out. -/
theorem alike_put {v : Value} (hidle : s.Idle key v) (hnew : (front ++ back).get? key = none)
    {name : String} (hname : name ∈ s.keys) :
    s.Alike (front ++ back) (front ++ (key, v) :: back) name := by
  by_cases hkey : key = name
  · subst hkey
    cases hidle with
    | default hv =>
      refine .default hnew hv ?_
      rw [Entries.get?_append, Option.or_eq_none_iff] at hnew
      rw [Entries.get?_append_cons, hnew.1, if_pos rfl, Option.none_or]
    | unnamed hunnamed => exact absurd hname hunnamed
  · refine .same ?_
    rw [Entries.get?_append, Entries.get?_append_cons, if_neg hkey]

theorem alike_swap {j k : String} (h : j ≠ k) (v w : Value) (name : String) :
    s.Alike (front ++ (j, v) :: (k, w) :: back) (front ++ (k, w) :: (j, v) :: back) name := by
  refine .same ?_
  rw [Entries.get?_append, Entries.get?_append, Entries.get?_cons_swap h]

theorem alike_inside {inner : Section} {t u : Entries Value}
    (hkey : s.subsections.get? key = some inner) (hread : inner.read t = inner.read u)
    (name : String) :
    s.Alike (front ++ (key, .table t) :: back) (front ++ (key, .table u) :: back) name := by
  have hlook : ∀ w : Entries Value, Entries.get? (front ++ (key, .table w) :: back) name =
      (front.get? name).or (if key = name then some (.table w) else back.get? name) :=
    fun w => Entries.get?_append_cons front back key name (.table w)
  cases hfront : front.get? name with
  | some v =>
    -- Whatever has the name further in front is found in both tables.
    refine .same ?_
    rw [hlook, hlook, hfront, Option.some_or, Option.some_or]
  | none =>
    by_cases hname : key = name
    · subst hname
      refine .inside hkey ?_ ?_ hread
      · rw [hlook, hfront, if_pos rfl, Option.none_or]
      · rw [hlook, hfront, if_pos rfl, Option.none_or]
    · refine .same ?_
      rw [hlook, hlook, if_neg hname, if_neg hname]

theorem Idle.stray {v : Value} (h : s.Idle key v) : key ∈ s.keys ∨ v.trouble? = none := by
  cases h with
  | default h => exact .inl (mem_keys_of_default h)
  | unnamed h hv => exact .inr (Value.trouble?_of_plain hv)

/-- A step of padding leaves what a section is read as. -/
theorem read_of_pads (h : s.Pads t u) : s.read t = s.read u := by
  induction h with
  | put front back hidle hnew =>
    refine read_of_alike (fun _ hname => alike_put hidle hnew hname) ?_
    exact (Value.strayTrouble?_append_cons hidle.stray _ _).symm
  | swap front back v w h =>
    exact read_of_alike (fun name _ => alike_swap h v w name) (Value.strayTrouble?_swap h v w _ _)
  | inside front back hkey _ hread =>
    -- The step is taken further inside, where by induction the same is read.
    have hfield := mem_keys_of_subsection hkey
    refine read_of_alike (fun name _ => alike_inside hkey hread name) ?_
    rw [Value.strayTrouble?_append_cons (.inl hfield),
      Value.strayTrouble?_append_cons (.inl hfield)]

/-- Any number of steps does. -/
theorem read_of_padded (h : Relation.ReflTransGen s.Pads t u) : s.read t = s.read u := by
  induction h with
  | refl => rfl
  | tail _ hstep ih => exact ih.trans (read_of_pads hstep)

end Section

/-! ### Documents -/

/-- The text is a document with the table for its root. -/
def Denotes (text : String) (t : Entries Value) : Prop :=
  ∃ d, Document.read text = .ok d ∧ d.table = t

theorem denotes_iff (text : String) (t : Entries Value) :
    Denotes text t ↔ (Document.read text).toOption.map Document.table = some t := by
  unfold Denotes
  cases Document.read text <;> simp [Except.toOption]

instance (text : String) (t : Entries Value) : Decidable (Denotes text t) :=
  decidable_of_iff _ (denotes_iff text t).symm

variable {t u : Entries Value}

theorem ofRoot_of_padded (h : Relation.ReflTransGen (Section.Pads .root) t u) :
    ofRoot t = ofRoot u := by
  have hspelled : spelledBy t = spelledBy u := Section.read_of_padded h
  rw [ofRoot_eq, ofRoot_eq, hspelled]

/-- What comes of a document, but for the place of what is wrong, is what comes of its root. -/
theorem ofText_of_denotes {text : String} (h : Denotes text t) :
    (ofText text).mapError Rejection.message = (ofRoot t).mapError Rejection.message := by
  obtain ⟨d, hd, rfl⟩ := h
  rw [ofText_of_read hd]
  cases ofRoot d.table with
  | ok c => rfl
  | error why => cases why <;> rfl

/-- Padding goes unnoticed: tables that differ by it alone give the same settings or are rejected
for the same reason, and of nothing but padding come the defaults. Documents with such tables give
the same settings or the same message. -/
theorem padding_goes_unnoticed (h : Relation.ReflTransGen (Section.Pads .root) t u) :
    ofRoot u = ofRoot t ∧
    (t = [] → ofRoot u = .ok {}) ∧
    ∀ text text', Denotes text t → Denotes text' u →
      (ofText text').mapError Rejection.message = (ofText text).mapError Rejection.message := by
  have hroot : ofRoot u = ofRoot t := (ofRoot_of_padded h).symm
  refine ⟨hroot, ?_, ?_⟩
  · rintro rfl
    rw [hroot]
    rfl
  · intro text text' ht hu
    rw [ofText_of_denotes ht, ofText_of_denotes hu, hroot]

/-- What is wrong with the path of a log file is noticed behind whatever stands in front of it. -/
theorem padding_goes_unnoticed_wrong_path :
    let text := "[logging.file]\npath = 5\n"
    let padded :=
      "x = [1]\n[output]\ndither = true\n[logging.file]\nmax_lines = 10000\npath = 5\n"
    let t : Entries Value := [("logging", .table [("file", .table [("path", .integer 5)])])]
    let u : Entries Value :=
      [("x", .array [.integer 1]), ("output", .table [("dither", .boolean true)]),
        ("logging", .table
          [("file", .table [("max_lines", .integer 10000), ("path", .integer 5)])])]
    Relation.ReflTransGen (Section.Pads .root) t u ∧ Denotes text t ∧ Denotes padded u ∧
      (ofText padded).mapError Rejection.message = (ofText text).mapError Rejection.message ∧
      (ofText text).mapError Rejection.message =
        .error "invalid configuration: invalid type: integer `5`, expected a string" := by
  intro text padded t u
  have hx : Section.Pads .root t (("x", .array [.integer 1]) :: t) :=
    .put [] t (.unnamed (by decide) (by decide)) rfl
  have hsection : Section.Pads .root (("x", .array [.integer 1]) :: t)
      (("x", .array [.integer 1]) :: ("output", .table []) :: t) :=
    .put [("x", .array [.integer 1])] t (.default rfl) rfl
  have hdither : Section.Pads .root (("x", .array [.integer 1]) :: ("output", .table []) :: t)
      (("x", .array [.integer 1]) :: ("output", .table [("dither", .boolean true)]) :: t) :=
    .inside [("x", .array [.integer 1])] t rfl (.put [] [] (.default rfl) rfl)
  have hlines : Section.Pads .root
      (("x", .array [.integer 1]) :: ("output", .table [("dither", .boolean true)]) :: t) u :=
    .inside [("x", .array [.integer 1]), ("output", .table [("dither", .boolean true)])] [] rfl
      (.inside [] [] rfl (.put [] [("path", .integer 5)] (.default rfl) rfl))
  have hpadded : Relation.ReflTransGen (Section.Pads .root) t u :=
    (((Relation.ReflTransGen.single hx).tail hsection).tail hdither).tail hlines
  have ht : Denotes text t := by decide +kernel
  have hu : Denotes padded u := by decide +kernel
  refine ⟨hpadded, ht, hu, (padding_goes_unnoticed hpadded).2.2 text padded ht hu, ?_⟩
  rw [ofText_of_denotes ht]
  rfl

end Hush.Config
