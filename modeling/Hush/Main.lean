import Hush.Report
import Std.Time

/-!
# Command line

Runs the report in the current directory: the files it may need are read first, the report is
worked out, and what it printed and logged is written out.
-/
namespace Hush.CommandLine

/-- What stands at a path, if anything does. What cannot be read as a file counts as a directory. -/
def node? (path : String) : IO (Option Node) := do
  try
    return some (.file (.ofBytes (← IO.FS.readBinFile path).toList))
  catch
    | .noFileOrDirectory .. => return none
    | _ => return some (.directory [])

/-- The files with what stands at a path. -/
def withFile (files : Files) (path : String) : IO Files := do
  match ← node? path with
  | some (.file contents) =>
    match (files.makeParent path).store path contents with
    | .ok files => return files
    | .error _ => return files
  | some (.directory _) => return files.makeDirectory path
  | none => return files

def logPath? (files : Files) : Option String :=
  ((Report.settings files).1.logging.bind (·.file)).map (·.path)

/-- Makes the directory a file lies in, and writes the file if there is one. -/
def writeOut (files : Files) (path : String) : IO Unit := do
  let parents := (path.splitOn "/").dropLast
  if !parents.isEmpty then
    IO.FS.createDirAll ("/".intercalate parents)
  match files.read path with
  | .ok bytes => IO.FS.writeBinFile path (ByteArray.mk bytes.toArray)
  | .error _ => return

def timeNow : IO String := do
  try
    return (← Std.Time.PlainDateTime.now).format "uuuu-MM-dd HH:mm:ss.SSS"
  catch _ => return "Unknown Time"

/-- The bytes that a buffer may have here. -/
def memory : Nat := Nat.pow 2 36

def unforeseen : IO UInt64 := do
  let bytes ← IO.getRandomBytes 8
  return UInt64.ofNat (Pcm.ofLittleEndian bytes.toList)

/-- One run, which gives the status that the program ends with. -/
def run : IO UInt32 := do
  let settings ← Config.paths.foldlM withFile []
  let files ← match logPath? settings with
    | some path => withFile settings path
    | none => pure settings
  let given ← IO.getEnv "RUST_LOG"
  let out := Report.run (.reading (← timeNow)) files given ⟨← unforeseen, memory⟩
  IO.print out.session.printed
  if let some path := logPath? settings then
    try writeOut out.session.files path
    catch e => IO.eprintln s!"Failed to write log file: {e}"
  return if out.ok then 0 else 1

end Hush.CommandLine

/-- The program takes no arguments. -/
def main : IO UInt32 := Hush.CommandLine.run
