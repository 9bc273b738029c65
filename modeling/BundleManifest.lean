import BundleManifest.Bundle
import BundleManifest.Catalog
import BundleManifest.CommandLine.Arguments
import BundleManifest.CommandLine.Help
import BundleManifest.CommandLine.Run
import BundleManifest.CommandLine.Switch
import BundleManifest.Deflate.Block
import BundleManifest.Deflate.CodeLength
import BundleManifest.Deflate.Search
import BundleManifest.Deflate.Size
import BundleManifest.Deflate.Token
import BundleManifest.Disk
import BundleManifest.Disk.Path
import BundleManifest.Identity
import BundleManifest.Json.Printer
import BundleManifest.Json.Reader
import BundleManifest.Main
import BundleManifest.Manifest
import BundleManifest.ModulePath
import BundleManifest.ModulePath.Scan
import BundleManifest.Number.Binary64
import BundleManifest.Number.Rounding
import BundleManifest.Number.Total
import BundleManifest.Outcome
import BundleManifest.PackageSize
import BundleManifest.Problem
import BundleManifest.Proofs.CommandLine.Report
import BundleManifest.Proofs.Disk.Directories
import BundleManifest.Proofs.Disk.Frame
import BundleManifest.Proofs.Disk.Growth
import BundleManifest.Proofs.Disk.Refusal
import BundleManifest.Proofs.Disk.Rooted
import BundleManifest.Proofs.Json.Return
import BundleManifest.Proofs.Json.RoundTrip
import BundleManifest.Proofs.Json.Token
import BundleManifest.Proofs.Manifest
import BundleManifest.Proofs.ModulePath.Scan
import BundleManifest.Proofs.ModulePath.Stem
import BundleManifest.Proofs.Number.Rounding
import BundleManifest.Proofs.PackageSize
import BundleManifest.Proofs.PackageSize.Summary
import BundleManifest.Proofs.Registration
import BundleManifest.Proofs.Report.Emoji
import BundleManifest.Proofs.Report.Escape
import BundleManifest.Proofs.Report.Fit
import BundleManifest.Proofs.Report.Line
import BundleManifest.Proofs.Report.Markup
import BundleManifest.Proofs.Report.SizeText
import BundleManifest.Proofs.Report.Table
import BundleManifest.Proofs.Report.Unmarked
import BundleManifest.Proofs.Script.Address
import BundleManifest.Proofs.Script.Alike
import BundleManifest.Proofs.Script.Denotation
import BundleManifest.Proofs.Script.Escape
import BundleManifest.Proofs.Script.Fault
import BundleManifest.Proofs.Script.Grammar.Expression
import BundleManifest.Proofs.Script.Grammar.Literal
import BundleManifest.Proofs.Script.Grammar.Program
import BundleManifest.Proofs.Script.Grammar.Statement
import BundleManifest.Proofs.Script.Layout
import BundleManifest.Proofs.Script.Literal
import BundleManifest.Proofs.Script.Moved
import BundleManifest.Proofs.Script.Preorder
import BundleManifest.Proofs.Script.Search
import BundleManifest.Proofs.Script.Source
import BundleManifest.Proofs.Script.Span
import BundleManifest.Proofs.Session.Snapshot
import BundleManifest.Proofs.Settings.Contents
import BundleManifest.Proofs.Settings.Environment
import BundleManifest.Proofs.Settings.Failure
import BundleManifest.Proofs.Settings.Formats
import BundleManifest.Proofs.Settings.Keys
import BundleManifest.Proofs.Settings.Layers
import BundleManifest.Proofs.Settings.Merge
import BundleManifest.Proofs.Settings.Precedence
import BundleManifest.Proofs.Settings.RoundTrip
import BundleManifest.Proofs.Settings.Saving
import BundleManifest.Proofs.Settings.Section
import BundleManifest.Proofs.Settings.Unknown
import BundleManifest.Proofs.Settings.Valid
import BundleManifest.Proofs.Text.Encoding
import BundleManifest.Proofs.Text.LineFeeds
import BundleManifest.Proofs.Text.Pieces
import BundleManifest.Proofs.Text.Utf16
import BundleManifest.Proofs.Text.Utf8
import BundleManifest.Proofs.Unpacker.Batch
import BundleManifest.Proofs.Unpacker.Completion
import BundleManifest.Proofs.Unpacker.Confinement
import BundleManifest.Proofs.Unpacker.Ending
import BundleManifest.Proofs.Unpacker.FileText
import BundleManifest.Proofs.Unpacker.Rerun
import BundleManifest.Proofs.Unpacker.Stop
import BundleManifest.Proofs.Value.Equality
import BundleManifest.Proofs.Value.Expressible
import BundleManifest.Proofs.Value.Key
import BundleManifest.Proofs.Walk.Alike
import BundleManifest.Proofs.Walk.Attempt
import BundleManifest.Proofs.Walk.Comment
import BundleManifest.Proofs.Walk.Concatenation
import BundleManifest.Proofs.Walk.Consistency
import BundleManifest.Proofs.Walk.Content
import BundleManifest.Proofs.Walk.Finding
import BundleManifest.Proofs.Walk.Options
import BundleManifest.Proofs.Walk.Outermost
import BundleManifest.Proofs.Walk.Receiver
import BundleManifest.Proofs.Walk.Span
import BundleManifest.Record
import BundleManifest.Registration.Build
import BundleManifest.Registration.Call
import BundleManifest.Registration.Kind
import BundleManifest.Report.Console
import BundleManifest.Report.Emoji
import BundleManifest.Report.EmojiTable
import BundleManifest.Report.Line
import BundleManifest.Report.Markup
import BundleManifest.Report.SizeText
import BundleManifest.Report.Table
import BundleManifest.Report.Usual
import BundleManifest.Report.Width
import BundleManifest.Report.Wrap
import BundleManifest.Result
import BundleManifest.Script.Charset
import BundleManifest.Script.Cursor
import BundleManifest.Script.Fault
import BundleManifest.Script.Grammar.Class
import BundleManifest.Script.Grammar.Collection
import BundleManifest.Script.Grammar.Element
import BundleManifest.Script.Grammar.Exchange
import BundleManifest.Script.Grammar.Expression
import BundleManifest.Script.Grammar.Function
import BundleManifest.Script.Grammar.Literal
import BundleManifest.Script.Grammar.Phrase
import BundleManifest.Script.Grammar.Program
import BundleManifest.Script.Grammar.Statement
import BundleManifest.Script.Lexeme
import BundleManifest.Script.Literal
import BundleManifest.Script.Node
import BundleManifest.Script.Parser
import BundleManifest.Script.Preorder
import BundleManifest.Script.Semicolon
import BundleManifest.Script.Source
import BundleManifest.Script.SyntaxError
import BundleManifest.Session
import BundleManifest.Settings
import BundleManifest.Settings.Check
import BundleManifest.Settings.Environment
import BundleManifest.Settings.Fault
import BundleManifest.Settings.File
import BundleManifest.Settings.Host
import BundleManifest.Settings.Load
import BundleManifest.Settings.Merge
import BundleManifest.Settings.Usual
import BundleManifest.Text.Base64
import BundleManifest.Text.Blank
import BundleManifest.Text.Codecs
import BundleManifest.Text.Digit
import BundleManifest.Text.Encoding
import BundleManifest.Text.Integer
import BundleManifest.Text.Pieces
import BundleManifest.Text.Printable
import BundleManifest.Text.Quoted
import BundleManifest.Text.Utf16
import BundleManifest.Text.Utf8
import BundleManifest.Unpacker
import BundleManifest.Value
import BundleManifest.Value.Keyed
import BundleManifest.Walk
import BundleManifest.Yaml.Keyed
import BundleManifest.Yaml.Node
import BundleManifest.Yaml.Place
import BundleManifest.Yaml.Printer
import BundleManifest.Yaml.Reader
import BundleManifest.Yaml.Scalar
import BundleManifest.Yaml.Schema
import BundleManifest.Yaml.Token
