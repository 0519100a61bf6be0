import Hush.Toml.Draft
import Hush.Toml.Scalar

/-!
# Documents

A document says what its lines say in order. The form of all lines is looked at before any of them
is read, so a flaw in the form of a later line is noticed before others.
-/
namespace Hush.Toml

/-- A key by its names as they are written. -/
def keyPath (names : List Raw) : Except Flaw KeyPath := do
  let names ← names.mapM fun r => r.name.map fun text => Name.mk text r.span
  match names.reverse with
  | last :: parents =>
    if depthLimit ≤ parents.length then throw ⟨.longKey, none⟩
    else return ⟨parents.reverse, last⟩
  | [] => throw ⟨.emptyName, none⟩

namespace Form

mutual
/-- The value that a form stands for. -/
def node : Form → Except Flaw Node
  | scalar raw => raw.scalar.map (.scalar raw.span)
  | array span items => (nodes items).map (.array span)
  | inlineTable span pairs => (entries [] pairs).map fun t => .table span (Draft.nodesOf t)

def nodes : List Form → Except Flaw (List Node)
  | [] => .ok []
  | item :: rest => do
    let node ← item.node
    return node :: (← nodes rest)

/-- The table that keys and values between braces make, on top of what it already has. -/
def entries (t : DraftEntries) : List (List Raw × Form) → Except Flaw DraftEntries
  | [] => .ok t
  | (names, form) :: rest => do
    let key ← keyPath names
    let node ← form.node
    entries (← t.assign true key.parents key.last node) rest
end

end Form

/-- The header that lines stand under. -/
structure Header where
  isArray : Bool
  span : Span
  key : KeyPath

/-- A document that is being read: the tables that are complete, and the one that lines go into with
its header. The lines in front of the first header go into the root. -/
structure Progress where
  root : DraftEntries
  current : DraftEntries
  header : Option Header

namespace Progress

/-- All tables, once the one that lines went into is put in its place. -/
def finish (p : Progress) : Except Flaw DraftEntries :=
  match p.header with
  | none => .ok p.current
  | some h =>
    p.root.within h.key.parents fun t =>
      if h.isArray then t.addTable h.key.last h.span p.current
      else .ok (t.putTable h.key.last h.span p.current)

/-- The document after one more line. Whether a table may be in an array is only looked at when it
is complete. -/
def add (p : Progress) : Line → Except Flaw Progress
  | .header isArray span names => do
    let root ← p.finish
    let key ← keyPath names
    let current ← if isArray then pure [] else root.opened key.parents key.last
    return ⟨root, current, some ⟨isArray, span, key⟩⟩
  | .pair names form => do
    let key ← keyPath names
    let node ← form.node
    return { p with current := ← p.current.assign false key.parents key.last node }

end Progress

/-- The root table of a document, every value in its place. -/
structure Document where
  entries : List (String × Span × Node)

namespace Document

def read (text : String) : Except Flaw Document := do
  let p ← (← Line.all text).foldlM Progress.add ⟨[], [], none⟩
  return ⟨Draft.nodesOf (← p.finish)⟩

/-- The root table without places. -/
def table (d : Document) : Entries Value := Node.valuesOf d.entries

/-- The place that steps lead to from the root. -/
def spanAt? (d : Document) (steps : List Step) : Option Span :=
  Node.spanAt? steps (.table ⟨0, 0⟩ d.entries)

end Document
end Hush.Toml
