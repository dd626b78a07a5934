import LintHost.Json.Reader
import LintHost.Main
import LintHost.Server.Exchange
import LintHost.Proofs.Path.Absolute
import LintHost.Proofs.Report.Grammar
import LintHost.Proofs.Buffer.Lines
import LintHost.Proofs.Lint.Check
import LintHost.Proofs.Lint.Placement
import LintHost.Proofs.FileSystem.Temporary
import LintHost.Proofs.Lint.Isolation
import LintHost.Proofs.Config.Command
import LintHost.Proofs.Config.Given
import LintHost.Proofs.Lint.Precedence
import LintHost.Proofs.Lint.Run
import LintHost.Proofs.Text.Utf16
import LintHost.Proofs.Lint.Progress
import LintHost.Proofs.Server.Publication
import LintHost.Proofs.Server.Closing
import LintHost.Proofs.Server.Currency
import LintHost.Proofs.Server.Completion
import LintHost.Proofs.Json.Grammar
import LintHost.Proofs.Rendering.Decoding
import LintHost.Proofs.Text.Pieces
import LintHost.Proofs.Text.Trimmed
import LintHost.Proofs.Config.Storable
import LintHost.Proofs.Config.RoundTrip
import LintHost.Proofs.Path.Spelling
import LintHost.Proofs.FileSystem.Spelling
import LintHost.Proofs.Config.Search
import LintHost.Proofs.Resolver.History
import LintHost.Proofs.Resolver.Memory
import LintHost.Proofs.Resolver.Lookups
import LintHost.Proofs.Sequence.Entries
import LintHost.Proofs.Sequence.Lasting
import LintHost.Proofs.Server.Editing
import LintHost.Proofs.Path.Enclosing
import LintHost.Proofs.Roots.Innermost
import LintHost.Proofs.Config.Directory
import LintHost.Proofs.Report.Relevance
import LintHost.Proofs.Lint.Relevance
import LintHost.Proofs.Server.Overtaking
import LintHost.Proofs.Config.Mentioned
import LintHost.Proofs.Config.Resolution
import LintHost.Proofs.Config.Sections
import LintHost.Proofs.Path.Canonical
import LintHost.Proofs.CommandLine.Layout
import LintHost.Proofs.Lint.Outcome
import LintHost.Proofs.Server.Configuration
import LintHost.Proofs.Text.Lines
import LintHost.Proofs.Report.Locality
import LintHost.Proofs.Buffer.Highlight
import LintHost.Proofs.Config.Lines
import LintHost.Proofs.Config.Layout
import LintHost.Proofs.Config.Definitions
import LintHost.Proofs.Config.Composition
import LintHost.Proofs.Config.Invariant
import LintHost.Proofs.Config.Settings
import LintHost.Proofs.Buffer.Offsets
import LintHost.Proofs.Config.Quoting
import LintHost.Proofs.Config.Projects
import LintHost.Proofs.Config.SearchPath
import LintHost.Proofs.Config.EmptyDirectory
import LintHost.Proofs.Config.CacheDirectory
import LintHost.Proofs.Invocation.Restoration
import LintHost.Proofs.CommandLine.Grammar
import LintHost.Proofs.Path.Normal
import LintHost.Proofs.Report.Way
import LintHost.Proofs.CommandLine.StandardInput
import LintHost.Proofs.Rendering.Terminal
