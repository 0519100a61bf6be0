import Hush.Files

/-!
# Changing files

Writing and removing files and making directories. A file is written where its path leads, as long
as the directory it lies in is there and nothing else stands in its place.
-/
namespace Hush.Files

/-- The names of a file that may be opened for writing, whether it is there or not. -/
def slot (files : Files) (path : String) : Except FileError (List String) := do
  let p ← Path.parse path
  match ← walk [] files p.names.dropLast with
  | .file _ => throw .notDirectory
  | .directory _ => if p.endsInDirectory then throw .isDirectory else p.settled

/-- The contents that opening a file for writing finds; none when the file is made by it. -/
def opened (files : Files) (path : String) : Except FileError (Option Contents) := do
  match walk [] files (← files.slot path) with
  | .ok (.file contents) => pure (some contents)
  | .ok (.directory _) => throw .isDirectory
  | .error .notFound => pure none
  | .error e => throw e

/-- The files with a change made in the directory that names lead to, if there is one. -/
def changeIn (change : Files → Files) : Files → List String → Files
  | here, [] => change here
  | here, name :: rest =>
    match here.get? name with
    | some (.directory entries) => here.put name (.directory (changeIn change entries rest))
    | _ => here

/-- The files with a file put where names lead to. -/
def place (contents : Contents) (files : Files) (names : List String) : Files :=
  match names.getLast? with
  | none => files
  | some name => files.changeIn (·.put name (.file contents)) names.dropLast

/-- The files with the contents of one replaced. -/
def store (files : Files) (path : String) (contents : Contents) : Except FileError Files := do
  let _ ← files.opened path
  return place contents files (← files.slot path)

/-- The files with one written anew. -/
def write (files : Files) (path : String) (bytes : List UInt8) : Except FileError Files :=
  files.store path (.ofBytes bytes)

/-- The files without the one that names lead to. -/
def removeAt (files : Files) (names : List String) : Files :=
  match names.getLast? with
  | none => files
  | some name => files.changeIn (·.without name) names.dropLast

def remove (files : Files) (path : String) : Except FileError Files := do
  let _ ← files.read path
  return removeAt files (← (← Path.parse path).settled)

/-- The files with all directories of a list of names made, unless a file is in the way. -/
def makeDirectories : Files → List String → Files
  | here, [] => here
  | here, name :: rest =>
    match here.get? name with
    | none =>
      if Path.longestName < name.utf8ByteSize then here
      else here.put name (.directory (makeDirectories [] rest))
    | some (.directory entries) => here.put name (.directory (makeDirectories entries rest))
    | some (.file _) => here

/-- The directories made that names pass on their way, which may lead back up; `above` has the
names already passed in reverse. Nothing is made outside of the files. -/
def makeAlong (files : Files) (above : List String) : List String → Files
  | [] => files
  | name :: rest =>
    if name = Path.up then
      match above with
      | [] => files
      | _ :: above => makeAlong files above rest
    else makeAlong (files.makeDirectories (name :: above).reverse) (name :: above) rest

/-- The names on the way of a path; none for one that is refused. -/
def stepsOf (path : String) : List String :=
  match Path.parse path with
  | .ok p => p.steps
  | .error _ => []

/-- The files with a directory made, and those it lies in. -/
def makeDirectory (files : Files) (path : String) : Files := files.makeAlong [] (stepsOf path)

/-- The files with the directory made that a path lies in. -/
def makeParent (files : Files) (path : String) : Files :=
  files.makeAlong [] (stepsOf path).dropLast

end Hush.Files
