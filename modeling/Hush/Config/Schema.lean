import Hush.Config
import Hush.Toml.Document
import Hush.Toml.Excerpt
import Hush.Toml.Mismatch

/-!
# Settings in a document

Each section of the settings is a record. In a table its fields are read in the order of their
keys, in an array in the order they were declared in; fields that are not there take their
defaults, and keys that name nothing are passed over. Writing settings gives back a table that
reads as the same settings.
-/
namespace Hush.Config
open Toml

def formatOf (v : Value) : Except Misfit Format := do
  (Format.parse (← v.asText)).mapError fun e => ⟨[], .refused e.message⟩

def profileOf (v : Value) : Except Misfit Volume.Profile := do
  let name ← v.asChoice (Volume.Profile.all.map (·.name))
  pure ((Volume.Profile.ofName? name).getD default)

namespace OutputSettings

def ofTable (t : Entries Value) : Except Misfit OutputSettings := do
  let dither ← field t "dither" Value.asBoolean true
  let format ← field t "format" formatOf .s16
  let framesPerBuffer ← field t "frames_per_buffer" Value.asSize defaultFramesPerBuffer
  return { format, dither, framesPerBuffer }

def ofArray (items : List Value) : Except Misfit OutputSettings := do
  let format ← item items 0 formatOf .s16
  let dither ← item items 1 Value.asBoolean true
  let framesPerBuffer ← item items 2 Value.asSize defaultFramesPerBuffer
  return { format, dither, framesPerBuffer }

def ofValue : Value → Except Misfit OutputSettings :=
  Value.asRecord "OutputConfig" ["format", "dither", "frames_per_buffer"] ofTable ofArray

def toTable (s : OutputSettings) : Entries Value :=
  [("format", .text s.format.name), ("dither", .boolean s.dither),
    ("frames_per_buffer", .integer s.framesPerBuffer.toNat)]

end OutputSettings

namespace VolumeSettings

def ofTable (t : Entries Value) : Except Misfit VolumeSettings := do
  let maxDb ← field t "max_db" Value.asSigned64 Volume.defaultMaxDb
  let minDb ← field t "min_db" Value.asSigned64 Volume.defaultMinDb
  let profile ← field t "profile" profileOf .standard
  return { profile, maxDb, minDb }

def ofArray (items : List Value) : Except Misfit VolumeSettings := do
  let profile ← item items 0 profileOf .standard
  let maxDb ← item items 1 Value.asSigned64 Volume.defaultMaxDb
  let minDb ← item items 2 Value.asSigned64 Volume.defaultMinDb
  return { profile, maxDb, minDb }

def ofValue : Value → Except Misfit VolumeSettings :=
  Value.asRecord "VolumeConfig" ["profile", "max_db", "min_db"] ofTable ofArray

def toTable (s : VolumeSettings) : Entries Value :=
  [("profile", .text s.profile.name), ("max_db", .integer s.maxDb.toInt),
    ("min_db", .integer s.minDb.toInt)]

end VolumeSettings

namespace DitherSettings

def ofTable (t : Entries Value) : Except Misfit DitherSettings := do
  let seed ← field? t "seed" Value.asWord64
  return { seed }

def ofArray (items : List Value) : Except Misfit DitherSettings := do
  let seed ← neededItem "DitherConfig" 1 items 0 Value.asWord64
  return { seed }

def ofValue : Value → Except Misfit DitherSettings :=
  Value.asRecord "DitherConfig" ["seed"] ofTable ofArray

def toTable (s : DitherSettings) : Entries Value :=
  match s.seed with
  | some seed => [("seed", .integer seed.toNat)]
  | none => []

end DitherSettings

namespace LogFileSettings

def ofTable (t : Entries Value) : Except Misfit LogFileSettings := do
  let maxLines ← field t "max_lines" Value.asWord32 defaultMaxLines
  let path ← neededField t "path" Value.asText
  return { path, maxLines }

def ofArray (items : List Value) : Except Misfit LogFileSettings := do
  let path ← neededItem "LogFileConfig" 2 items 0 Value.asText
  let maxLines ← item items 1 Value.asWord32 defaultMaxLines
  return { path, maxLines }

def ofValue : Value → Except Misfit LogFileSettings :=
  Value.asRecord "LogFileConfig" ["path", "max_lines"] ofTable ofArray

def toTable (s : LogFileSettings) : Entries Value :=
  [("path", .text s.path), ("max_lines", .integer s.maxLines.toNat)]

end LogFileSettings

namespace LogSettings

def ofTable (t : Entries Value) : Except Misfit LogSettings := do
  let file ← field? t "file" LogFileSettings.ofValue
  let filters ← field? t "filters" Value.asText
  let level ← field? t "level" Value.asText
  return { level, filters, file }

def ofArray (items : List Value) : Except Misfit LogSettings := do
  let needed := fun {α : Type} => @neededItem α "LoggingConfig" 3 items
  let level ← needed 0 Value.asText
  let filters ← needed 1 Value.asText
  let file ← needed 2 LogFileSettings.ofValue
  return { level, filters, file }

def ofValue : Value → Except Misfit LogSettings :=
  Value.asRecord "LoggingConfig" ["level", "filters", "file"] ofTable ofArray

/-- A key with its value, if there is one. -/
def optional {α : Type} (key : String) (write : α → Value) : Option α → Entries Value
  | some a => [(key, write a)]
  | none => []

def toTable (s : LogSettings) : Entries Value :=
  optional "level" .text s.level ++ optional "filters" .text s.filters ++
    optional "file" (fun f => .table f.toTable) s.file

end LogSettings

def ofTable (t : Entries Value) : Except Misfit Config := do
  let dither ← field t "dither" DitherSettings.ofValue {}
  let logging ← field? t "logging" LogSettings.ofValue
  let output ← field t "output" OutputSettings.ofValue {}
  let volume ← field t "volume" VolumeSettings.ofValue {}
  return { output, volume, dither, logging }

def toTable (c : Config) : Entries Value :=
  [("output", .table c.output.toTable), ("volume", .table c.volume.toTable),
    ("dither", .table c.dither.toTable)] ++
    LogSettings.optional "logging" (fun l => .table l.toTable) c.logging

/-- Why a text does not give settings that can be used: it is no document, or says something else,
which may be known by its place. -/
inductive Rejection where
  | malformed (flaw : Flaw)
  | misfit (m : Misfit) (place : Option Span)
  | unusable (cause : Unusable)

namespace Rejection

/-- How a rejection is reported, without the line it is about. -/
def message : Rejection → String
  | malformed flaw => s!"invalid configuration: {flaw.cause.message}"
  | misfit m _ => s!"invalid configuration: {m.cause.message}"
  | unusable cause => cause.message

/-- How the rejection of a text is reported, with the line it is about. -/
def report (text : String) : Rejection → String
  | malformed flaw =>
    "invalid configuration: " ++ Toml.report text flaw.span flaw.cause.message
  | misfit m place => "invalid configuration: " ++ Toml.report text place m.cause.message
  | unusable cause => cause.message

/-- The rejection with the place it has in a document. -/
def placedIn (d : Document) : Rejection → Rejection
  | misfit m _ => misfit m (d.spanAt? m.steps)
  | r => r

end Rejection

/-- Reads the root table and looks whether the settings can be used. -/
def ofRoot (t : Entries Value) : Except Rejection Config := do
  let read := Value.asRecord.ofFields ["output", "volume", "dither", "logging"] ofTable t
  let c ← read.mapError fun m => .misfit m none
  c.validate.mapError .unusable
  return c

/-- The settings that a text spells. -/
def ofText (text : String) : Except Rejection Config := do
  let d ← (Document.read text).mapError .malformed
  (ofRoot d.table).mapError (·.placedIn d)

end Hush.Config
