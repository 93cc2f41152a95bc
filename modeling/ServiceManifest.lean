import ServiceManifest.Ascending
import ServiceManifest.Build.Document
import ServiceManifest.Build.Plan
import ServiceManifest.Build.State
import ServiceManifest.Command.Actions
import ServiceManifest.Command.Help
import ServiceManifest.Command.Options
import ServiceManifest.Command.Program
import ServiceManifest.Command.Session
import ServiceManifest.Config
import ServiceManifest.Console.Markup
import ServiceManifest.Console.Picture
import ServiceManifest.Console.Report
import ServiceManifest.Console.Style
import ServiceManifest.Console.Table
import ServiceManifest.Decimal
import ServiceManifest.Declaration
import ServiceManifest.Digest.Content
import ServiceManifest.Disk.Tree
import ServiceManifest.Environment
import ServiceManifest.ExitCode
import ServiceManifest.Fault
import ServiceManifest.Grouping
import ServiceManifest.Json.File
import ServiceManifest.Json.Order
import ServiceManifest.Json.Reader
import ServiceManifest.Json.Type
import ServiceManifest.Json.Value
import ServiceManifest.Json.Writer
import ServiceManifest.Loading
import ServiceManifest.Loading.Member
import ServiceManifest.Log.Record
import ServiceManifest.Log.Sinks
import ServiceManifest.Main
import ServiceManifest.Manifest
import ServiceManifest.Marker
import ServiceManifest.Name
import ServiceManifest.Path
import ServiceManifest.Project.Builtin
import ServiceManifest.Project.Discovery
import ServiceManifest.Project.Index
import ServiceManifest.Project.Resolve
import ServiceManifest.Project.Resolver
import ServiceManifest.Project.Supertypes
import ServiceManifest.Proofs.Ascending
import ServiceManifest.Proofs.Build.Plan
import ServiceManifest.Proofs.Build.RoundTrip
import ServiceManifest.Proofs.Build.Rules
import ServiceManifest.Proofs.Build.State
import ServiceManifest.Proofs.Command.Abort
import ServiceManifest.Proofs.Command.Conclude
import ServiceManifest.Proofs.Command.Damaged
import ServiceManifest.Proofs.Command.Escape
import ServiceManifest.Proofs.Command.Generate
import ServiceManifest.Proofs.Command.History
import ServiceManifest.Proofs.Command.LastBuild
import ServiceManifest.Proofs.Command.Prepare
import ServiceManifest.Proofs.Command.Session
import ServiceManifest.Proofs.Command.Settings
import ServiceManifest.Proofs.Command.Stale
import ServiceManifest.Proofs.Command.Status
import ServiceManifest.Proofs.Command.Verdict
import ServiceManifest.Proofs.Config
import ServiceManifest.Proofs.Digest.Snapshot
import ServiceManifest.Proofs.Disk.Raised
import ServiceManifest.Proofs.Disk.Sound
import ServiceManifest.Proofs.Disk.Tree
import ServiceManifest.Proofs.Grouping
import ServiceManifest.Proofs.Json.Equality
import ServiceManifest.Proofs.Json.File
import ServiceManifest.Proofs.Json.RoundTrip
import ServiceManifest.Proofs.Json.Strings
import ServiceManifest.Proofs.Keyed
import ServiceManifest.Proofs.Loading
import ServiceManifest.Proofs.Manifest
import ServiceManifest.Proofs.Name
import ServiceManifest.Proofs.Path
import ServiceManifest.Proofs.Project.Acyclic
import ServiceManifest.Proofs.Project.Alias
import ServiceManifest.Proofs.Project.Alike
import ServiceManifest.Proofs.Project.Ancestors
import ServiceManifest.Proofs.Project.Bound
import ServiceManifest.Proofs.Project.Chain
import ServiceManifest.Proofs.Project.Closed
import ServiceManifest.Proofs.Project.Cycle
import ServiceManifest.Proofs.Project.Declared
import ServiceManifest.Proofs.Project.Depth
import ServiceManifest.Proofs.Project.External
import ServiceManifest.Proofs.Project.Failures
import ServiceManifest.Proofs.Project.Fewer
import ServiceManifest.Proofs.Project.Follow
import ServiceManifest.Proofs.Project.Inside
import ServiceManifest.Proofs.Project.Kept
import ServiceManifest.Proofs.Project.Leads
import ServiceManifest.Proofs.Project.Marked
import ServiceManifest.Proofs.Project.Memo
import ServiceManifest.Proofs.Project.Ordered
import ServiceManifest.Proofs.Project.Outside
import ServiceManifest.Proofs.Project.OwnName
import ServiceManifest.Proofs.Project.Placed
import ServiceManifest.Proofs.Project.Relative
import ServiceManifest.Proofs.Project.Requests
import ServiceManifest.Proofs.Project.Same
import ServiceManifest.Proofs.Project.Scan
import ServiceManifest.Proofs.Project.Simple
import ServiceManifest.Proofs.Project.Sites
import ServiceManifest.Proofs.Project.Units
import ServiceManifest.Proofs.Project.Walk
import ServiceManifest.Proofs.Project.Without
import ServiceManifest.Proofs.Result
import ServiceManifest.Proofs.Round.Agree
import ServiceManifest.Proofs.Round.Broken
import ServiceManifest.Proofs.Round.Collect
import ServiceManifest.Proofs.Round.DryRun
import ServiceManifest.Proofs.Round.Emit
import ServiceManifest.Proofs.Round.Emitted
import ServiceManifest.Proofs.Round.Exact
import ServiceManifest.Proofs.Round.Folder
import ServiceManifest.Proofs.Round.Least
import ServiceManifest.Proofs.Round.Life
import ServiceManifest.Proofs.Round.Loaded
import ServiceManifest.Proofs.Round.Mirror
import ServiceManifest.Proofs.Round.Options
import ServiceManifest.Proofs.Round.Unaffected
import ServiceManifest.Proofs.Round.Unordered
import ServiceManifest.Proofs.Round.Verified
import ServiceManifest.Proofs.Round.Violation
import ServiceManifest.Proofs.Source.Grammar
import ServiceManifest.Proofs.Source.Lexer
import ServiceManifest.Proofs.Source.Lines
import ServiceManifest.Proofs.Source.Reader
import ServiceManifest.Proofs.Source.Statement
import ServiceManifest.Proofs.Store.Atomic
import ServiceManifest.Proofs.Store.Confined
import ServiceManifest.Proofs.Store.Drafts
import ServiceManifest.Proofs.Store.Folder
import ServiceManifest.Proofs.Store.Manifests
import ServiceManifest.Proofs.Store.Obsolete
import ServiceManifest.Proofs.Store.Ready
import ServiceManifest.Proofs.Store.Stream
import ServiceManifest.Proofs.Text.Delimiter
import ServiceManifest.Proofs.Text.Lines
import ServiceManifest.Round.Collect
import ServiceManifest.Round.Emit
import ServiceManifest.Round.Error
import ServiceManifest.Round.Processor
import ServiceManifest.Source.Argument
import ServiceManifest.Source.Constant
import ServiceManifest.Source.Decode
import ServiceManifest.Source.Diagnosis.Expression
import ServiceManifest.Source.Diagnosis.Parameters
import ServiceManifest.Source.Diagnosis.Reader
import ServiceManifest.Source.Fault
import ServiceManifest.Source.Form
import ServiceManifest.Source.Grammar.Basic
import ServiceManifest.Source.Grammar.Expression
import ServiceManifest.Source.Grammar.Pattern
import ServiceManifest.Source.Grammar.Statement
import ServiceManifest.Source.Lexer
import ServiceManifest.Source.Literal
import ServiceManifest.Source.Parse
import ServiceManifest.Source.Phrase
import ServiceManifest.Source.Syntax
import ServiceManifest.Source.SyntaxFault
import ServiceManifest.Source.Token
import ServiceManifest.Store.Artifact
import ServiceManifest.Store.Folder
import ServiceManifest.Store.Memory
import ServiceManifest.Store.Stream
import ServiceManifest.Text.Case
import ServiceManifest.Text.CharacterName
import ServiceManifest.Text.Charset.Big5
import ServiceManifest.Text.Charset.Gb2312
import ServiceManifest.Text.Charset.Jis
import ServiceManifest.Text.Charset.KsX1001
import ServiceManifest.Text.Charset.Layout
import ServiceManifest.Text.Charset.Page
import ServiceManifest.Text.Encoding.Basic
import ServiceManifest.Text.Encoding.Chinese
import ServiceManifest.Text.Encoding.Japanese
import ServiceManifest.Text.Encoding.Korean
import ServiceManifest.Text.Encoding.Named
import ServiceManifest.Text.Encoding.Switching
import ServiceManifest.Text.Encoding.Utf7
import ServiceManifest.Text.Escape
import ServiceManifest.Text.Identifier
import ServiceManifest.Text.Lines
import ServiceManifest.Text.NameTable.Asian
import ServiceManifest.Text.NameTable.Further
import ServiceManifest.Text.NameTable.Latin
import ServiceManifest.Text.NameTable.Symbol
import ServiceManifest.Text.Normal
import ServiceManifest.Text.NormalTables
import ServiceManifest.Text.Printable
import ServiceManifest.Text.Quoted
import ServiceManifest.Text.Ranges
import ServiceManifest.Text.Resemblance
import ServiceManifest.Text.Utf8
import ServiceManifest.Text.Width
