import Hush.Entries
import Hush.Files.Contents
import Hush.Files.Path
import Hush.Text.Utf8

/-!
# Files

A directory as a value: names with what they stand for, and what can be read there.
-/
namespace Hush

/-- A file with its contents, or a directory with the names in it. -/
inductive Node where
  | file (contents : Contents)
  | directory (entries : List (String × Node))

/-- The entries of a directory. -/
abbrev Files := Entries Node

namespace Files

/-- The node that names lead to; `above` has the directories passed, the last first. Each name but
the last has to be a directory's. -/
def walk (above : List Files) : Files → List String → Except FileError Node
  | here, [] => .ok (.directory here)
  | here, name :: rest =>
    if name = Path.here then walk above here rest
    else if name = Path.up then walk above.tail (above.headD []) rest
    else if Path.longestName < name.utf8ByteSize then .error .nameTooLong
    else
      match here.get? name with
      | none => .error .notFound
      | some (.directory entries) => walk (here :: above) entries rest
      | some (.file contents) =>
        if rest.isEmpty then .ok (.file contents) else .error .notDirectory

def node (files : Files) (path : String) : Except FileError Node := do
  let p ← Path.parse path
  match ← walk [] files p.names with
  | .file contents => if p.directoryOnly then throw .notDirectory else pure (.file contents)
  | .directory entries => pure (.directory entries)

/-- There is something at the path. -/
def holds (files : Files) (path : String) : Bool := (files.node path).isOk

def read (files : Files) (path : String) : Except FileError (List UInt8) := do
  match ← files.node path with
  | .file contents => pure contents.bytes
  | .directory _ => throw .isDirectory

def readText (files : Files) (path : String) : Except FileError String := do
  match Text.string? (← files.read path) with
  | some s => pure s
  | none => throw .notText

mutual
/-- All files below a directory, each with its path. -/
def listing (above : String) : List (String × Node) → List (String × List UInt8)
  | [] => []
  | (name, node) :: rest => listNode (above ++ name) node ++ listing above rest

/-- The files at or below a node. -/
def listNode (path : String) : Node → List (String × List UInt8)
  | .file contents => [(path, contents.bytes)]
  | .directory entries => listing (path ++ "/") entries
end

def all (files : Files) : List (String × List UInt8) := listing "" files

end Files
end Hush
