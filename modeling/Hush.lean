import Hush.Binary64
import Hush.Binary64.Log2
import Hush.Config
import Hush.Config.Load
import Hush.Config.Schema
import Hush.Counter
import Hush.Decimal
import Hush.Entries
import Hush.Fault
import Hush.Files
import Hush.Files.Change
import Hush.Files.Contents
import Hush.Files.Path
import Hush.Format
import Hush.Generator
import Hush.Log.CappedFile
import Hush.Log.Directive
import Hush.Log.Escape
import Hush.Log.Event
import Hush.Log.Filter
import Hush.Log.Line
import Hush.Log.Session
import Hush.Main
import Hush.Pattern
import Hush.Pattern.Atom
import Hush.Pattern.Brackets
import Hush.Pcm
import Hush.Pcm.Word
import Hush.Proofs.Binary64.Arithmetic
import Hush.Proofs.Binary64.Exact
import Hush.Proofs.Binary64.Logarithm
import Hush.Proofs.Binary64.Order
import Hush.Proofs.Binary64.Rounding
import Hush.Proofs.Config.BufferSize
import Hush.Proofs.Config.Padding
import Hush.Proofs.Config.RoundTrip
import Hush.Proofs.Config.Usable
import Hush.Proofs.Files.Storing
import Hush.Proofs.Format.Names
import Hush.Proofs.Generator.Reversal
import Hush.Proofs.Log.Colours
import Hush.Proofs.Log.Erasure
import Hush.Proofs.Log.Escapes
import Hush.Proofs.Log.Joining
import Hush.Proofs.Log.LineCap
import Hush.Proofs.Log.Lines
import Hush.Proofs.Log.Printing
import Hush.Proofs.Log.Trimming
import Hush.Proofs.Log.Writing
import Hush.Proofs.Pcm.Encodings
import Hush.Proofs.Pcm.RoundTrip
import Hush.Proofs.Pcm.Slots
import Hush.Proofs.Pcm.Words
import Hush.Proofs.Silence.Atomicity
import Hush.Proofs.Silence.DitherLaw
import Hush.Proofs.Silence.Filling
import Hush.Proofs.Silence.Independence
import Hush.Proofs.Silence.Rendering
import Hush.Proofs.Silence.Seeds
import Hush.Proofs.Silence.SharedSource
import Hush.Proofs.Silence.Splitting
import Hush.Proofs.Text.Blank
import Hush.Proofs.Text.Utf8
import Hush.Proofs.Toml.Records
import Hush.Proofs.Volume.Bounds
import Hush.Proofs.Volume.FlatCurve
import Hush.Proofs.Volume.FullVolume
import Hush.Proofs.Volume.Requests
import Hush.Proofs.Volume.StandardCurve
import Hush.Proofs.Volume.TaperedCurve
import Hush.Report
import Hush.Silence
import Hush.Silence.Desk
import Hush.Silence.InPlace
import Hush.Silence.Source
import Hush.Text.Alphanumeric
import Hush.Text.Blank
import Hush.Text.Numeral
import Hush.Text.Parts
import Hush.Text.Quoted
import Hush.Text.Ranges
import Hush.Text.Utf8
import Hush.Text.Visible
import Hush.Toml.DateTime
import Hush.Toml.Document
import Hush.Toml.Draft
import Hush.Toml.Excerpt
import Hush.Toml.Flaw
import Hush.Toml.Form
import Hush.Toml.Mismatch
import Hush.Toml.Node
import Hush.Toml.Reader
import Hush.Toml.Scalar
import Hush.Toml.Text
import Hush.Toml.Token
import Hush.Toml.Value
import Hush.Version
import Hush.Volume
import Hush.Volume.Curve
import Hush.Volume.Transfer
