import Hush.Toml.Node

/-!
# Tables under construction

A document fills its tables line by line, and some lines are refused because of earlier ones: a
table is defined once, a key is given once, and what was written as one value is never added to.
So a table remembers how it came about until the document is complete.
-/
namespace Hush.Toml

structure Name where
  text : String
  span : Span
  deriving DecidableEq, Repr

structure KeyPath where
  parents : List Name
  last : Name
  deriving DecidableEq, Repr

/-- How a table came about: by a header of its own, by the header of a table inside it, or by a key
of several names, which also takes over what was only implied. -/
inductive Origin where
  | defined | implied | dotted
  deriving DecidableEq, Repr

/-- What stands at a key so far. Of an array of tables, the newest comes first. -/
inductive Draft where
  | settled (node : Node)
  | table (origin : Origin) (span : Span) (entries : List (String × Span × Draft))
  | tables (span : Span) (newestFirst : List (Span × List (String × Span × Draft)))

namespace Draft

mutual
/-- What a draft says. -/
def node : Draft → Node
  | settled node => node
  | table _ span entries => .table span (nodesOf entries)
  | tables span newestFirst => .array span (tablesOf newestFirst).reverse

/-- What the entries of a draft say. -/
def nodesOf : List (String × Span × Draft) → List (String × Span × Node)
  | [] => []
  | (key, place, d) :: rest => (key, place, d.node) :: nodesOf rest

def tablesOf : List (Span × List (String × Span × Draft)) → List Node
  | [] => []
  | (span, entries) :: rest => .table span (nodesOf entries) :: tablesOf rest
end

/-- Why a name does not lead further, in a document or between the braces of an inline table. -/
def refusal (inBraces : Bool) : Draft → Cause
  | settled (.table _ _) => if inBraces then .duplicateKey else .notExtensible "inline table"
  | settled node => .notExtensible node.kind
  | table _ _ _ | tables _ _ => .duplicateKey

end Draft

/-- The entries of a table under construction, each with the place of its key. -/
abbrev DraftEntries := Entries (Span × Draft)

namespace DraftEntries

/-- Gives a key of a table its value. The names in front lead through tables that have no header of
their own; an array of tables leads to its newest, which has, so they do not end there. -/
def assign (inBraces : Bool) :
    DraftEntries → (parents : List Name) → (last : Name) → Node → Except Flaw DraftEntries
  | here, [], last, node =>
    if here.has last.text then .error (Cause.duplicateKey.at last.span)
    else .ok (here.put last.text (last.span, .settled node))
  | here, name :: rest, last, node =>
    match here.get? name.text with
    | none =>
      (assign inBraces [] rest last node).map fun inner =>
        here.put name.text (name.span, .table .dotted name.span inner)
    | some (place, d) =>
      match d with
      | .table .implied span inner | .table .dotted span inner =>
        (assign inBraces inner rest last node).map fun inner =>
          here.put name.text (place, .table .dotted span inner)
      | .tables span ((first, newest) :: older) =>
        if rest.isEmpty then .error (Cause.duplicateKey.at last.span)
        else (assign inBraces newest rest last node).map fun t =>
          here.put name.text (place, .tables span ((first, t) :: older))
      | d => .error ((d.refusal inBraces).at name.span)

/-- Changes the table that the names of a header lead to, making those on the way. An array of
tables leads to its newest. -/
def within : DraftEntries → List Name → (DraftEntries → Except Flaw DraftEntries) →
    Except Flaw DraftEntries
  | here, [], change => change here
  | here, name :: rest, change =>
    match here.get? name.text with
    | none =>
      (within [] rest change).map fun inner =>
        here.put name.text (name.span, .table .implied name.span inner)
    | some (place, d) =>
      match d with
      | .table origin span inner =>
        (within inner rest change).map fun inner =>
          here.put name.text (place, .table origin span inner)
      | .tables span ((first, newest) :: older) =>
        (within newest rest change).map fun t =>
          here.put name.text (place, .tables span ((first, t) :: older))
      | d => .error ((d.refusal false).at name.span)

/-- What a table has before its header: nothing, or what it got while it was only implied. -/
def beforeHeader (here : DraftEntries) (key : Name) : Except Flaw DraftEntries :=
  match here.get? key.text with
  | none => .ok []
  | some (_, .table .implied _ inner) => .ok inner
  | _ => .error (Cause.duplicateKey.at key.span)

/-- What the table that names lead to has before its header. -/
def opened : DraftEntries → (parents : List Name) → (key : Name) → Except Flaw DraftEntries
  | here, [], key => here.beforeHeader key
  | here, name :: rest, key =>
    match here.get? name.text with
    | none => opened [] rest key
    | some (_, .table _ _ inner) => opened inner rest key
    | some (_, .tables _ ((_, newest) :: _)) => opened newest rest key
    | some (_, d) => .error ((d.refusal false).at name.span)

/-- Adds a table to an array of tables, which stands where its first table does. -/
def addTable (here : DraftEntries) (key : Name) (span : Span) (entries : DraftEntries) :
    Except Flaw DraftEntries :=
  match here.get? key.text with
  | none => .ok (here.put key.text (key.span, .tables span [(span, entries)]))
  | some (place, .tables first newestFirst) =>
    .ok (here.put key.text (place, .tables first ((span, entries) :: newestFirst)))
  | _ => .error (Cause.duplicateKey.at key.span)

/-- Puts a table with a header in its place. -/
def putTable (here : DraftEntries) (key : Name) (span : Span) (entries : DraftEntries) :
    DraftEntries :=
  here.put key.text (key.span, .table .defined span entries)

end DraftEntries
end Hush.Toml
