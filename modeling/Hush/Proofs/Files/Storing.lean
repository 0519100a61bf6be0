import Hush.Files.Change

/-!
# What is stored is found

A path that can be opened for writing leads to one name in one directory. Storing there, and
removing what is there, changes that name alone. Every directory stays where it was, so the path
still leads to the name, and opening it again finds what was stored.
-/
namespace Hush.Files

/-- A name that an entry of a directory may have. -/
structure Plain (name : String) : Prop where
  ne_here : name ≠ Path.here
  ne_up : name ≠ Path.up
  fits : ¬ Path.longestName < name.utf8ByteSize

/-! ### Directories by their names -/

/-- The directory that names lead to, if each is the name of a directory in the one before. -/
def directoryAt : Files → List String → Option Files
  | here, [] => some here
  | here, name :: rest =>
    match here.get? name with
    | some (.directory entries) => directoryAt entries rest
    | _ => none

theorem directoryAt_append (here : Files) (names rest : List String) :
    here.directoryAt (names ++ rest) = (here.directoryAt names).bind (directoryAt · rest) := by
  induction names generalizing here with
  | nil => rfl
  | cons name names ih =>
    simp only [List.cons_append, directoryAt]
    split
    · exact ih _
    · rfl

theorem isSome_directoryAt_append {files : Files} {names : List String} {name : String} :
    (files.directoryAt (names ++ [name])).isSome ↔ ∃ here entries,
      files.directoryAt names = some here ∧ here.get? name = some (.directory entries) := by
  rw [directoryAt_append]
  constructor
  · intro h
    obtain ⟨here, hhere⟩ := Option.isSome_iff_exists.mp (Option.isSome_of_isSome_bind h)
    rw [hhere, Option.bind_some, directoryAt] at h
    split at h
    · next entries hget => exact ⟨here, entries, hhere, hget⟩
    · exact absurd h (by simp)
  · rintro ⟨here, entries, hhere, hget⟩
    simp [hhere, directoryAt, hget]

/-- All directories of some files are there in others. -/
def Kept (files files' : Files) : Prop :=
  ∀ names, (files.directoryAt names).isSome → (files'.directoryAt names).isSome

theorem Kept.refl (files : Files) : Kept files files := fun _ h => h

theorem kept_put_directory {here entries entries' : Files} {name : String}
    (hname : here.get? name = some (.directory entries)) (hkept : Kept entries entries') :
    Kept here (here.put name (.directory entries')) := by
  intro names h
  cases names with
  | nil => rfl
  | cons other rest =>
    simp only [directoryAt, Entries.get?_put] at h ⊢
    by_cases he : name = other
    · subst he
      rw [hname] at h
      rw [if_pos rfl]
      exact hkept rest h
    · rwa [if_neg he]

theorem kept_put_file {here : Files} {name : String} (contents : Contents)
    (hname : ∀ entries, here.get? name ≠ some (.directory entries)) :
    Kept here (here.put name (.file contents)) := by
  intro names h
  cases names with
  | nil => rfl
  | cons other rest =>
    simp only [directoryAt, Entries.get?_put] at h ⊢
    by_cases he : name = other
    · subst he
      split at h
      · next hdir => exact absurd hdir (hname _)
      · exact absurd h (by simp)
    · rwa [if_neg he]

theorem kept_without {here : Files} {name : String}
    (hname : ∀ entries, here.get? name ≠ some (.directory entries)) :
    Kept here (here.without name) := by
  intro names h
  cases names with
  | nil => rfl
  | cons other rest =>
    simp only [directoryAt, Entries.get?_without] at h ⊢
    by_cases he : name = other
    · subst he
      split at h
      · next hdir => exact absurd hdir (hname _)
      · exact absurd h (by simp)
    · rwa [if_neg he]

/-! ### A change in one directory -/

theorem place_append (contents : Contents) (files : Files) (names : List String) (name : String) :
    place contents files (names ++ [name]) =
      files.changeIn (·.put name (.file contents)) names := by
  simp [place]

theorem removeAt_append (files : Files) (names : List String) (name : String) :
    files.removeAt (names ++ [name]) = files.changeIn (·.without name) names := by
  simp [removeAt]

/-- The change is found where it was made, and directories stay that stay in the one changed. -/
theorem directoryAt_changeIn (change : Files → Files) {here entries : Files}
    {names : List String} (hdir : here.directoryAt names = some entries)
    (hkept : Kept entries (change entries)) :
    (here.changeIn change names).directoryAt names = some (change entries) ∧
      Kept here (here.changeIn change names) := by
  induction names generalizing here with
  | nil =>
    cases hdir
    exact ⟨rfl, hkept⟩
  | cons name names ih =>
    rw [directoryAt] at hdir
    split at hdir
    · next inner hname =>
      obtain ⟨hfound, hinner⟩ := ih hdir
      simp only [changeIn, hname, directoryAt, Entries.get?_put, if_pos]
      exact ⟨hfound, kept_put_directory hname hinner⟩
    · cases hdir

/-! ### Walking from a directory -/

/-- The directories passed on the way along names, which are held in reverse. -/
def passed (files : Files) : List String → List Files
  | [] => []
  | _ :: names => (files.directoryAt names.reverse).getD [] :: passed files names

/-- Where names lead to from the directory at others, which are held in reverse. -/
def walkFrom (files : Files) (names : List String) (rest : List String) : Except FileError Node :=
  walk (files.passed names) ((files.directoryAt names.reverse).getD []) rest

@[simp] theorem walkFrom_here (files : Files) (names rest : List String) :
    files.walkFrom names (Path.here :: rest) = files.walkFrom names rest := by
  simp [walkFrom, walk]

@[simp] theorem walkFrom_up (files : Files) (name : String) (names rest : List String) :
    files.walkFrom (name :: names) (Path.up :: rest) = files.walkFrom names rest := by
  have hne : Path.up ≠ Path.here := by decide
  rw [walkFrom, walk, if_neg hne, if_pos rfl]
  rfl

/-- A name that a walk does not refuse as too long is plain, unless it is one of the special two. -/
theorem plain_of_walkFrom {files : Files} {names rest : List String} {name : String}
    (hhere : name ≠ Path.here) (hup : name ≠ Path.up)
    (hwalk : files.walkFrom names (name :: rest) ≠ .error .nameTooLong) : Plain name := by
  refine ⟨hhere, hup, fun hlong => hwalk ?_⟩
  rw [walkFrom, walk, if_neg hhere, if_neg hup, if_pos hlong]

/-- A name is looked up in the directory that was reached. -/
theorem walkFrom_cons {files here : Files} {names : List String}
    (hdir : files.directoryAt names.reverse = some here) {name : String} (hname : Plain name)
    (rest : List String) :
    files.walkFrom names (name :: rest) =
      match here.get? name with
      | none => .error .notFound
      | some (.directory _) => files.walkFrom (name :: names) rest
      | some (.file contents) =>
        if rest.isEmpty then .ok (.file contents) else .error .notDirectory := by
  rw [walkFrom, walk, if_neg hname.ne_here, if_neg hname.ne_up, if_neg hname.fits, hdir,
    Option.getD_some]
  cases hget : here.get? name with
  | none => rfl
  | some node =>
    cases node with
    | file => rfl
    | directory entries =>
      have hinto : files.directoryAt (name :: names).reverse = some entries := by
        rw [List.reverse_cons, directoryAt_append, hdir]
        simp [directoryAt, hget]
      simp only [walkFrom, hinto, passed, hdir, Option.getD_some]

/-- A name of a directory leads into it. -/
theorem walkFrom_into {files : Files} {names : List String} {name : String} (hname : Plain name)
    (hdir : (files.directoryAt (name :: names).reverse).isSome) (rest : List String) :
    files.walkFrom names (name :: rest) = files.walkFrom (name :: names) rest := by
  rw [List.reverse_cons] at hdir
  obtain ⟨here, entries, hhere, hget⟩ := isSome_directoryAt_append.mp hdir
  rw [walkFrom_cons hhere hname, hget]

/-- Names of directories lead to the directory they name. -/
theorem walkFrom_directories {files : Files} {names : List String} (hnames : ∀ n ∈ names, Plain n)
    {before : List String} (hdir : (files.directoryAt (before.reverse ++ names)).isSome)
    (rest : List String) :
    files.walkFrom before (names ++ rest) = files.walkFrom (names.reverse ++ before) rest := by
  induction names generalizing before with
  | nil => rfl
  | cons name names ih =>
    have hall : (files.directoryAt ((name :: before).reverse ++ names)).isSome := by
      simpa using hdir
    have hinto : (files.directoryAt (name :: before).reverse).isSome := by
      rw [directoryAt_append] at hall
      exact Option.isSome_of_isSome_bind hall
    have hrest := ih (fun n hn => hnames n (List.mem_cons_of_mem _ hn)) hall
    rw [List.cons_append, walkFrom_into (hnames name List.mem_cons_self) hinto, hrest]
    simp

theorem walk_directories {files : Files} {names : List String} (hnames : ∀ n ∈ names, Plain n)
    (hdir : (files.directoryAt names).isSome) (rest : List String) :
    walk [] files (names ++ rest) = files.walkFrom names.reverse rest := by
  have hall : (files.directoryAt (List.reverse [] ++ names)).isSome := hdir
  have hgo := walkFrom_directories hnames hall rest
  rwa [List.append_nil] at hgo

/-- A walk that ends in a directory only passes directories. -/
theorem isSome_directoryAt_of_walkFrom {files : Files} {names rest : List String} {name : String}
    (hname : Plain name) (hdir : (files.directoryAt names.reverse).isSome) {d : Files}
    (hwalk : files.walkFrom names (name :: rest) = .ok (.directory d)) :
    (files.directoryAt (name :: names).reverse).isSome := by
  obtain ⟨here, hhere⟩ := Option.isSome_iff_exists.mp hdir
  rw [walkFrom_cons hhere hname] at hwalk
  rw [List.reverse_cons]
  split at hwalk
  · cases hwalk
  · next entries hget => exact isSome_directoryAt_append.mpr ⟨here, entries, hhere, hget⟩
  · split at hwalk <;> cases hwalk

/-! ### Settling the names of a path -/

theorem settle_append (above names rest : List String) :
    Path.settle above (names ++ rest) =
      (Path.settle above names).bind fun settled => Path.settle settled.reverse rest := by
  induction names generalizing above with
  | nil => simp [Except.bind]
  | cons name names ih =>
    rw [List.cons_append]
    by_cases hup : name = Path.up
    · subst hup
      cases above with
      | nil => simp [Except.bind]
      | cons _ above => simpa using ih above
    · rw [Path.settle_cons hup, Path.settle_cons hup, ih]

theorem settle_append_name {above names all : List String} {name : String} (h : name ≠ Path.up) :
    Path.settle above (names ++ [name]) = .ok all ↔
      ∃ settled, Path.settle above names = .ok settled ∧ all = settled ++ [name] := by
  rw [settle_append]
  cases Path.settle above names with
  | error e => simp [Except.bind]
  | ok settled => simp [Except.bind, Path.settle_cons h, eq_comm]

/-- The end of a path is the name of something, when it is not that of a directory. -/
theorem of_endsInDirectory_eq_false {p : Path} {front : List String} {name : String}
    (hnames : p.names = front ++ [name]) (hends : p.endsInDirectory = false) :
    p.directoryOnly = false ∧ name ≠ Path.here ∧ name ≠ Path.up ∧
      p.steps = (front.filter fun n => n != Path.here) ++ [name] := by
  have hlast : p.names.getLast? = some name := by simp [hnames]
  simp only [Path.endsInDirectory, hlast, Bool.or_eq_false_iff, decide_eq_false_iff_not,
    Option.some.injEq] at hends
  obtain ⟨⟨honly, hhere⟩, hup⟩ := hends
  exact ⟨honly, hhere, hup, by simp [Path.steps, hnames, hhere]⟩

/-- A walk that ends in a directory ends in the one that its settled names lead to, and goes on
from there. The same walk goes the same way wherever those directories are kept. -/
theorem walkFrom_settle {files : Files} {names before settled : List String}
    (hbefore : ∀ n ∈ before, Plain n) (hdir : (files.directoryAt before.reverse).isSome)
    (hsettle : Path.settle before (names.filter fun n => n != Path.here) = .ok settled)
    (hwalk : ∃ d, files.walkFrom before names = .ok (.directory d)) :
    (∀ n ∈ settled, Plain n) ∧ (files.directoryAt settled).isSome ∧
      ∀ files', Kept files files' → ∀ rest,
        files'.walkFrom before (names ++ rest) = files'.walkFrom settled.reverse rest := by
  -- Settling and walking take the names in the same order, and `before` grows and shrinks alike.
  induction names generalizing before with
  | nil =>
    cases hsettle
    refine ⟨fun n hn => hbefore n (List.mem_reverse.mp hn), hdir, fun files' _ rest => ?_⟩
    rw [List.reverse_reverse, List.nil_append]
  | cons name names ih =>
    by_cases hhere : name = Path.here
    · subst hhere
      simp only [walkFrom_here] at hwalk
      simpa using ih hbefore hdir (by simpa using hsettle) hwalk
    · have hfilter : (name :: names).filter (fun n => n != Path.here) =
          name :: names.filter fun n => n != Path.here := by
        simp [hhere]
      rw [hfilter] at hsettle
      by_cases hup : name = Path.up
      · subst hup
        cases before with
        | nil => cases hsettle
        | cons last before =>
          rw [Path.settle_up_cons] at hsettle
          have hparent : (files.directoryAt before.reverse).isSome := by
            rw [List.reverse_cons, directoryAt_append] at hdir
            exact Option.isSome_of_isSome_bind hdir
          simpa using ih (fun n hn => hbefore n (List.mem_cons_of_mem _ hn)) hparent hsettle
            (by simpa using hwalk)
      · rw [Path.settle_cons hup] at hsettle
        obtain ⟨d, hd⟩ := hwalk
        have hname : Plain name := plain_of_walkFrom hhere hup (by rw [hd]; exact nofun)
        have hinto := isSome_directoryAt_of_walkFrom hname hdir hd
        rw [walkFrom_into hname hinto] at hd
        obtain ⟨hplain, hsettled, hgo⟩ := ih (List.forall_mem_cons.mpr ⟨hname, hbefore⟩) hinto
          hsettle ⟨d, hd⟩
        refine ⟨hplain, hsettled, fun files' hkept rest => ?_⟩
        rw [List.cons_append, walkFrom_into hname (hkept _ hinto)]
        exact hgo files' hkept rest

/-! ### Storing, finding and removing -/

/-- What a path leads to: a name in a directory, whether there is an entry of the name or not. -/
structure Leads (files : Files) (p : Path) (names : List String) (name : String) : Prop where
  names_eq : p.names = p.names.dropLast ++ [name]
  ends : p.endsInDirectory = false
  settled : Path.settle [] (p.names.dropLast.filter fun n => n != Path.here) = .ok names
  plain : Plain name
  walked : ∃ d, files.walkFrom [] p.names.dropLast = .ok (.directory d)

namespace Leads

variable {files files' : Files} {p : Path} {names : List String} {name : String}

theorem spec (h : Leads files p names name) :
    (∀ n ∈ names, Plain n) ∧ (files.directoryAt names).isSome ∧
      ∀ files', Kept files files' → ∀ rest,
        files'.walkFrom [] (p.names.dropLast ++ rest) = files'.walkFrom names.reverse rest :=
  walkFrom_settle (by simp) rfl h.settled h.walked

/-- Nothing changes on the way where directories are kept. -/
theorem of_kept (h : Leads files p names name) (hkept : Kept files files') :
    Leads files' p names name := by
  obtain ⟨-, hdir, hgo⟩ := h.spec
  refine { h with walked := ?_ }
  have hwalk := hgo files' hkept []
  rw [List.append_nil] at hwalk
  exact ⟨_, hwalk⟩

theorem settled_eq (h : Leads files p names name) : p.settled = .ok (names ++ [name]) := by
  obtain ⟨-, -, hup, hsteps⟩ := of_endsInDirectory_eq_false h.names_eq h.ends
  rw [Path.settled, hsteps]
  exact (settle_append_name hup).mpr ⟨names, h.settled, rfl⟩

theorem slot_eq (h : Leads files p names name) {path : String} (hparse : Path.parse path = .ok p) :
    files.slot path = .ok (names ++ [name]) := by
  obtain ⟨d, hd⟩ := h.walked
  have hwalk : walk [] files p.names.dropLast = .ok (.directory d) := hd
  simp [slot, hparse, hwalk, h.ends, h.settled_eq, bind, Except.bind]

/-- At the end of the way the name is looked up. -/
theorem walkFrom_eq (h : Leads files p names name) {here : Files}
    (hhere : files.directoryAt names = some here) :
    files.walkFrom names.reverse [name] = match here.get? name with
      | none => .error .notFound
      | some node => .ok node := by
  rw [walkFrom_cons (by rwa [List.reverse_reverse]) h.plain]
  cases hget : here.get? name with
  | none => rfl
  | some node =>
    cases node with
    | file contents => rfl
    | directory entries =>
      have hinto : files.directoryAt (name :: names.reverse).reverse = some entries := by
        rw [List.reverse_cons, List.reverse_reverse, directoryAt_append, hhere]
        simp [directoryAt, hget]
      simp only [walkFrom, hinto, Option.getD_some, walk]

/-- Opening finds the file of the name, or that there is none yet. -/
theorem opened_eq (h : Leads files p names name) {path : String} (hparse : Path.parse path = .ok p)
    {here : Files} (hhere : files.directoryAt names = some here) :
    files.opened path = match here.get? name with
      | none => .ok none
      | some (.file contents) => .ok (some contents)
      | some (.directory _) => .error .isDirectory := by
  obtain ⟨hplain, hdir, -⟩ := h.spec
  have hwalk := walk_directories hplain hdir [name]
  simp only [opened, h.slot_eq hparse, bind, Except.bind, hwalk, h.walkFrom_eq hhere]
  cases here.get? name with
  | none => rfl
  | some node => cases node <;> rfl

/-- Reading finds the same file. -/
theorem read_eq (h : Leads files p names name) {path : String} (hparse : Path.parse path = .ok p)
    {here : Files} (hhere : files.directoryAt names = some here) {contents : Contents}
    (hget : here.get? name = some (.file contents)) : files.read path = .ok contents.bytes := by
  obtain ⟨-, -, hgo⟩ := h.spec
  have hwalk : walk [] files p.names = .ok (.file contents) := by
    rw [h.names_eq]
    refine (hgo files (Kept.refl files) [name]).trans ?_
    rw [h.walkFrom_eq hhere, hget]
  obtain ⟨honly, -⟩ := of_endsInDirectory_eq_false h.names_eq h.ends
  simp [read, node, hparse, hwalk, honly, bind, Except.bind, pure, Except.pure]

end Leads

theorem of_slot_eq_ok {files : Files} {path : String} {all : List String}
    (hslot : files.slot path = .ok all) : ∃ p, Path.parse path = .ok p ∧
      (∃ d, walk [] files p.names.dropLast = .ok (.directory d)) ∧
      p.endsInDirectory = false ∧ p.settled = .ok all := by
  unfold slot at hslot
  cases hparse : Path.parse path with
  | error e =>
    rw [hparse] at hslot
    cases hslot
  | ok p =>
    simp only [hparse, bind, Except.bind] at hslot
    cases hwalk : walk [] files p.names.dropLast with
    | error e =>
      rw [hwalk] at hslot
      cases hslot
    | ok node =>
      cases node with
      | file contents =>
        rw [hwalk] at hslot
        cases hslot
      | directory d =>
        rw [hwalk] at hslot
        dsimp only at hslot
        split at hslot
        · cases hslot
        · next hends => exact ⟨p, rfl, ⟨d, hwalk⟩, by simpa using hends, hslot⟩

/-- A path that can be opened leads to a name. -/
theorem leads_of_opened {files : Files} {path : String} {found : Option Contents}
    (hopen : files.opened path = .ok found) :
    ∃ p names name, Path.parse path = .ok p ∧ Leads files p names name := by
  cases hslot : files.slot path with
  | error e => simp [opened, hslot, bind, Except.bind] at hopen
  | ok all =>
    obtain ⟨p, hparse, hwalk, hends, hsettled⟩ := of_slot_eq_ok hslot
    simp only [opened, hslot, bind, Except.bind] at hopen
    have hne : p.names ≠ [] := by
      intro hnil
      simp only [Path.settled, Path.steps, hnil, List.filter_nil, Path.settle_nil] at hsettled
      cases hsettled
      cases hopen
    have hnames : p.names = p.names.dropLast ++ [p.names.getLast hne] :=
      (List.dropLast_concat_getLast hne).symm
    obtain ⟨-, hhere, hup, hsteps⟩ := of_endsInDirectory_eq_false hnames hends
    rw [Path.settled, hsteps] at hsettled
    obtain ⟨names, hfront, rfl⟩ := (settle_append_name hup).mp hsettled
    obtain ⟨hplain, hdir, -⟩ := walkFrom_settle (List.forall_mem_nil _) rfl hfront hwalk
    -- A name too long for an entry would have kept the path from being opened.
    have hfits : files.walkFrom names.reverse [p.names.getLast hne] ≠ .error .nameTooLong := by
      intro hlong
      rw [walk_directories hplain hdir, hlong] at hopen
      cases hopen
    exact ⟨p, names, _, hparse, hnames, hends, hfront, plain_of_walkFrom hhere hup hfits, hwalk⟩

/-- A file can be opened for writing and has these bytes so far, or none because it is made then. -/
def OpensWith (files : Files) (path : String) (bytes : List UInt8) : Prop :=
  ∃ found, files.opened path = .ok found ∧ (found.getD .empty).bytes = bytes

/-- Where a file can be opened it can be stored, and what was stored is found from then on. -/
theorem opened_store {files : Files} {path : String} {found : Option Contents}
    (hopen : files.opened path = .ok found) (contents : Contents) :
    ∃ files', files.store path contents = .ok files' ∧
      files'.opened path = .ok (some contents) := by
  obtain ⟨p, names, name, hparse, hleads⟩ := leads_of_opened hopen
  obtain ⟨here, hhere⟩ := Option.isSome_iff_exists.mp hleads.spec.2.1
  have hfile : ∀ entries, here.get? name ≠ some (.directory entries) := by
    intro entries hget
    rw [hleads.opened_eq hparse hhere, hget] at hopen
    cases hopen
  obtain ⟨hplaced, hkept⟩ := directoryAt_changeIn (·.put name (.file contents)) hhere
    (kept_put_file contents hfile)
  refine ⟨files.changeIn (·.put name (.file contents)) names, ?_, ?_⟩
  · simp [store, hopen, hleads.slot_eq hparse, place_append, bind, Except.bind, pure, Except.pure]
  · rw [(hleads.of_kept hkept).opened_eq hparse hplaced]
    simp

/-- A file that is there can be removed, and there is none then. -/
theorem opened_remove {files : Files} {path : String} {contents : Contents}
    (hopen : files.opened path = .ok (some contents)) :
    ∃ files', files.remove path = .ok files' ∧ files'.opened path = .ok none := by
  obtain ⟨p, names, name, hparse, hleads⟩ := leads_of_opened hopen
  obtain ⟨here, hhere⟩ := Option.isSome_iff_exists.mp hleads.spec.2.1
  have hget : here.get? name = some (.file contents) := by
    rw [hleads.opened_eq hparse hhere] at hopen
    split at hopen
    · cases hopen
    · next hget => cases hopen; exact hget
    · cases hopen
  have hfile : ∀ entries, here.get? name ≠ some (.directory entries) := by
    intro entries h
    rw [hget] at h
    cases h
  obtain ⟨hplaced, hkept⟩ := directoryAt_changeIn (·.without name) hhere (kept_without hfile)
  refine ⟨files.changeIn (·.without name) names, ?_, ?_⟩
  · simp [remove, hleads.read_eq hparse hhere hget, hparse, hleads.settled_eq, removeAt_append,
      bind, Except.bind, pure, Except.pure]
  · rw [(hleads.of_kept hkept).opened_eq hparse hplaced]
    simp

end Hush.Files
