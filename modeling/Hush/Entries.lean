/-!
# Entries

Names with something for each: the keys of a table, the files of a directory. Names keep the place
they were first put in, and a look-up finds the first entry of its name.
-/
namespace Hush

/-- Names with something for each. -/
abbrev Entries (α : Type) := List (String × α)

namespace Entries

variable {α : Type}

/-- What a name stands for. -/
def get? : Entries α → String → Option α
  | [], _ => none
  | e :: rest, name => if e.1 = name then some e.2 else get? rest name

def has (entries : Entries α) (name : String) : Bool := (entries.get? name).isSome

/-- The entries with one replaced, or added at the end. -/
def put : Entries α → String → α → Entries α
  | [], name, a => [(name, a)]
  | e :: rest, name, a => if e.1 = name then (name, a) :: rest else e :: put rest name a

def without (entries : Entries α) (name : String) : Entries α :=
  entries.filter fun e => e.1 != name

@[simp] theorem get?_nil (name : String) : get? ([] : Entries α) name = none := rfl

theorem get?_cons (e : String × α) (rest : Entries α) (name : String) :
    get? (e :: rest) name = if e.1 = name then some e.2 else get? rest name := rfl

@[simp] theorem get?_put (entries : Entries α) (name other : String) (a : α) :
    (entries.put name a).get? other = if name = other then some a else entries.get? other := by
  induction entries with
  | nil => simp [put, get?_cons]
  | cons e rest ih =>
    grind [put, get?_cons]

@[simp] theorem get?_without (entries : Entries α) (name other : String) :
    (entries.without name).get? other = if name = other then none else entries.get? other := by
  induction entries with
  | nil => simp [without]
  | cons e rest ih =>
    unfold without at ih ⊢
    grind [get?_cons]

end Entries
end Hush
