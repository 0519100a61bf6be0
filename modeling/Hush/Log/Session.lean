import Hush.Config
import Hush.Log.CappedFile
import Hush.Log.Filter
import Hush.Log.Line

/-!
# Logging sessions

What a program prints and logs. Once logging is set up, events that pass the filter are printed in
colour and appended to the log file, and whatever else is printed goes there as well, without its
escape sequences. A log file that cannot be written is passed over in silence.
-/
namespace Hush.Log

structure Logger where
  filter : Filter
  writers : Option Writers
  deriving DecidableEq

/-- What has been printed, the files, and the logger once there is one. -/
structure Session where
  stamp : Stamp
  files : Files
  printed : String
  logger : Option Logger

namespace Session

/-- A session before logging is set up. -/
def start (stamp : Stamp) (files : Files) : Session := ⟨stamp, files, "", none⟩

def print (s : Session) (text : String) : Session := { s with printed := s.printed ++ text }

/-- The session after bytes are appended to the log file, if there are any. -/
def append (s : Session) (bytes : List UInt8) : Session :=
  match s.logger with
  | some ⟨filter, some writers⟩ =>
    if bytes.isEmpty then s
    else match writers.write s.files 0 bytes with
      | .ok (writers, files) => { s with files, logger := some ⟨filter, some writers⟩ }
      | .error _ => s
  | _ => s

/-- What the log file gets of a text. -/
def fileBytes (text : String) : List UInt8 := Text.encode (strip text)

/-- The session after a text goes to the log file. -/
def appendText (s : Session) (text : String) : Session := s.append (fileBytes text)

/-- The session after a line is printed and goes to the log file. -/
def printLine (s : Session) (text : String) : Session :=
  (s.print (text ++ "\n")).appendText (text ++ "\n")

def logs (s : Session) (e : Event) : Bool := s.logger.any fun l => l.filter.allows e

def event (s : Session) (e : Event) : Session :=
  if s.logs e then
    (s.print (line true s.stamp e)).append (Text.encode (line false s.stamp e))
  else s

def events (s : Session) (es : List Event) : Session := es.foldl event s

/-- The filter in force: the given one unless it is malformed, else that of the settings. A broken
character in either is no reason to go on with the other. -/
def filterFor (given : Option String) (logging : Option Config.LogSettings) :
    Except Refusal Filter :=
  let ofSettings := Filter.parseLossy (Config.filterDirectives logging)
  match given.map Filter.parse with
  | none | some (.error .malformed) => ofSettings
  | some filter => filter

/-- Sets logging up, which can be done once and with a filter that can be read. -/
def begin (s : Session) (given : Option String) (c : Config) : Option Session := do
  if s.logger.isSome then none
  let filter ← (filterFor given c.logging).toOption
  match c.logging.bind (·.file) with
  | none => return { s with logger := some ⟨filter, none⟩ }
  | some file =>
    return { s with
      files := s.files.makeParent file.path
      logger := some ⟨filter, some (.single file.path file.maxLines)⟩ }

end Session
end Hush.Log
