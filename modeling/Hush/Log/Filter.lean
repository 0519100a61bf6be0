import Hush.Log.Directive

/-!
# Log filters

A filter is a list of directives. Of those that speak of an event the most specific decides, and of
two that are equally specific the later. An event that no directive speaks of does not pass.
-/
namespace Hush.Log

structure Filter where
  directives : List Directive
  deriving DecidableEq, Repr

namespace Filter

/-- The parts of a text between commas that say something. -/
def directiveTexts (s : String) : List (List Char) :=
  (Text.parts ',' s.toList).filter fun part => !part.isEmpty

/-- The filter a text spells. The first directive that cannot be read is refused. -/
def parse (s : String) : Except Refusal Filter := do
  return ⟨← (directiveTexts s).mapM Directive.parse⟩

/-- A directive, if it is well-formed. -/
def wellFormed? (cs : List Char) : Except Refusal (Option Directive) :=
  match Directive.parse cs with
  | .ok d => .ok (some d)
  | .error .malformed => .ok none
  | .error e => .error e

/-- The filter that lets errors of every target pass. -/
def errorsOnly : Filter := ⟨[⟨[], .all, some .error⟩]⟩

/-- The filter a text spells without its malformed directives, or the one that errors pass when it
has no others. -/
def parseLossy (s : String) : Except Refusal Filter := do
  let ds ← (directiveTexts s).filterMapM wellFormed?
  return if ds.isEmpty then errorsOnly else ⟨ds⟩

/-- The directive that decides about an event. -/
def deciding (f : Filter) (e : Event) : Option Directive :=
  f.directives.foldl (fun best d =>
    if d.concerns e && best.all d.atLeastAsSpecific then some d else best) none

def allows (f : Filter) (e : Event) : Bool := (f.deciding e).any fun d => d.passes e.level

end Filter
end Hush.Log
