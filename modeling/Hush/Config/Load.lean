import Hush.Config.Schema
import Hush.Files

/-!
# Finding settings

Settings are read from the first of two files that is there. What is wrong with that file is
reported, and the other one is not tried instead.
-/
namespace Hush.Config

def paths : List String := ["config.toml", "config.default.toml"]

/-- Why there are no settings. -/
inductive Error where
  | missing
  | unreadable (path : String) (cause : FileError)
  | empty (path : String)
  | rejected (text : String) (why : Rejection)

def Error.message : Error → String
  | missing =>
    "no configuration file found (looked for " ++ " or ".intercalate paths ++ ")"
  | unreadable path cause => s!"failed to read {path}: {cause.message}"
  | empty path => s!"{path} is empty"
  | rejected text why => why.report text

def ofFile (files : Files) (path : String) : Except Error Config := do
  let text ← (files.readText path).mapError (.unreadable path)
  if Text.isAllBlank text then
    throw (.empty path)
  (ofText text).mapError (.rejected text)

/-- The file that settings are read from. -/
def path? (files : Files) : Option String := paths.find? files.holds

/-- What is printed before settings are read from a file. -/
def loading (path : String) : String := s!"Loading configuration from: {path}"

/-- The settings in the first file that is there. -/
def load (files : Files) : Except Error Config :=
  match path? files with
  | some path => ofFile files path
  | none => .error .missing

end Hush.Config
