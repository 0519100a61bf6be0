import Hush.Text.Parts

/-!
# Paths

A path is a list of names from the top of a directory. A `.` stays where it is and a `..` goes back
up. Nothing is known of what lies outside of the directory but that there is a directory around it,
so a path from the top of the system counts as one that begins by going up.
-/
namespace Hush

inductive FileError where
  | notFound | notDirectory | isDirectory | notText | nameTooLong | zeroInName
  deriving DecidableEq, Repr

namespace FileError

/-- The system's words for a failure. -/
def message : FileError → String
  | notFound => "No such file or directory (os error 2)"
  | notDirectory => "Not a directory (os error 20)"
  | isDirectory => "Is a directory (os error 21)"
  | notText => "stream did not contain valid UTF-8"
  | nameTooLong => "File name too long (os error 36)"
  | zeroInName => "file name contained an unexpected NUL byte"

def kind : FileError → String
  | notFound => "entity not found"
  | notDirectory => "not a directory"
  | isDirectory => "is a directory"
  | notText => "invalid data"
  | nameTooLong => "invalid filename"
  | zeroInName => "invalid input parameter"

end FileError

/-- Where a path leads: names on the way from the top, and whether a slash behind the last asks for
a directory. -/
structure Path where
  names : List String
  directoryOnly : Bool
  deriving DecidableEq, Repr

namespace Path

def longestName : Nat := 255

def longestPath : Nat := 4095

def here : String := "."

def up : String := ".."

/-- The path that a text spells. -/
def parse (s : String) : Except FileError Path :=
  if s.toList.contains '\x00' then .error .zeroInName
  else if s.isEmpty then .error .notFound
  else if longestPath < s.utf8ByteSize then .error .nameTooLong
  else
    let parts := (Text.parts '/' s.toList).map String.ofList
    let names := parts.filter fun p => p != ""
    .ok ⟨if parts.head? = some "" then up :: names else names, parts.getLast? = some ""⟩

/-- The text of the path ends in a way that only a directory's can. -/
def endsInDirectory (p : Path) : Bool :=
  p.directoryOnly || p.names.getLast? = some here || p.names.getLast? = some up

/-- The names of a path with each `.` taken out. -/
def steps (p : Path) : List String := p.names.filter fun name => name != here

/-- Names with each `..` taken out together with the name before it, below names already taken in
reverse. -/
def settle (above : List String) : List String → Except FileError (List String)
  | [] => .ok above.reverse
  | name :: rest =>
    if name = up then
      match above with
      | [] => .error .notFound
      | _ :: above => settle above rest
    else settle (name :: above) rest

@[simp] theorem settle_nil (above : List String) : settle above [] = .ok above.reverse := rfl

@[simp] theorem settle_up_nil (rest : List String) :
    settle [] (up :: rest) = .error .notFound := by
  simp [settle]

@[simp] theorem settle_up_cons (name : String) (above rest : List String) :
    settle (name :: above) (up :: rest) = settle above rest := by
  simp [settle]

theorem settle_cons {name : String} (h : name ≠ up) (above rest : List String) :
    settle above (name :: rest) = settle (name :: above) rest := by
  rw [settle.eq_def]
  exact if_neg h

/-- The names a path leads to, each the name of a file or a directory. -/
def settled (p : Path) : Except FileError (List String) := settle [] p.steps

end Path
end Hush
