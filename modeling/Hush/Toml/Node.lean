import Hush.Toml.Flaw
import Hush.Toml.Value

/-!
# Nodes

The values of a document together with the places they stand at. Keys have places of their own.
-/
namespace Hush.Toml

/-- A value in its place. What is inside a scalar has none. -/
inductive Node where
  | scalar (span : Span) (v : Value)
  | array (span : Span) (items : List Node)
  | table (span : Span) (entries : List (String × Span × Node))

namespace Node

def span : Node → Span
  | scalar span _ | array span _ | table span _ => span

def kind : Node → String
  | scalar _ v => v.kind
  | array _ _ => "array"
  | table _ _ => "table"

mutual
def value : Node → Value
  | scalar _ v => v
  | array _ items => .array (values items)
  | table _ entries => .table (valuesOf entries)

def values : List Node → List Value
  | [] => []
  | node :: rest => node.value :: values rest

def valuesOf : List (String × Span × Node) → Entries Value
  | [] => []
  | (key, _, node) :: rest => (key, node.value) :: valuesOf rest
end

/-- The place that steps lead to. -/
def spanAt? : List Step → Node → Option Span
  | [], node => some node.span
  | .key name :: steps, table _ entries =>
    (Entries.get? entries name).bind fun e => spanAt? steps e.2
  | .name name :: _, table _ entries => (Entries.get? entries name).map (·.1)
  | .item place :: steps, array _ items => items[place]?.bind (spanAt? steps)
  | _, _ => none

end Node
end Hush.Toml
