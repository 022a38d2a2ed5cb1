import PawnScope.Main
import PawnScope.Sample
import PawnScope.Proofs.Buffer.Edits
import PawnScope.Proofs.Buffer.Lines
import PawnScope.Proofs.Buffer.StrayBreaks
import PawnScope.Proofs.Config.Sections
import PawnScope.Proofs.Cursor.Division
import PawnScope.Proofs.Disk.Lookup
import PawnScope.Proofs.Disk.Normalization
import PawnScope.Proofs.Disk.Writing
import PawnScope.Proofs.Editor.DiagnosticRange
import PawnScope.Proofs.Include.NormalForm
import PawnScope.Proofs.Include.OwnName
import PawnScope.Proofs.Include.Placeholder
import PawnScope.Proofs.Include.Registration
import PawnScope.Proofs.Include.Resolution
import PawnScope.Proofs.Include.StrayPlaceholder
import PawnScope.Proofs.Location.FilePath
import PawnScope.Proofs.Path.Steps
import PawnScope.Proofs.Sample.Chain
import PawnScope.Proofs.Sample.Files
import PawnScope.Proofs.Sample.Texts
import PawnScope.Proofs.Session.Conversation
import PawnScope.Proofs.Session.Diagnostics
import PawnScope.Proofs.Source.BlockComments
import PawnScope.Proofs.Source.BlockDepth
import PawnScope.Proofs.Source.ClosedComments
import PawnScope.Proofs.Source.DeclarationOrder
import PawnScope.Proofs.Source.DefaultValues
import PawnScope.Proofs.Source.Directives
import PawnScope.Proofs.Source.Documentation
import PawnScope.Proofs.Source.EnumLayout
import PawnScope.Proofs.Source.Findings
import PawnScope.Proofs.Source.FunctionBodies
import PawnScope.Proofs.Source.HeaderLines
import PawnScope.Proofs.Source.Headings
import PawnScope.Proofs.Source.LineNumbers
import PawnScope.Proofs.Source.LiteralContents
import PawnScope.Proofs.Source.Nesting
import PawnScope.Proofs.Source.Owners
import PawnScope.Proofs.Source.PlainLines
import PawnScope.Proofs.Source.Rendering
import PawnScope.Proofs.Symbol.Declarations
import PawnScope.Proofs.Text.Columns
import PawnScope.Proofs.Text.Division
import PawnScope.Proofs.Text.Identifiers
import PawnScope.Proofs.Text.Octets
import PawnScope.Proofs.Text.Percent
import PawnScope.Proofs.Text.SourceLines
import PawnScope.Proofs.Text.Trimming
import PawnScope.Proofs.Visibility.Chain
import PawnScope.Proofs.Visibility.Lookup
import PawnScope.Proofs.Visibility.Preorder
import PawnScope.Proofs.Visibility.Reachability
import PawnScope.Proofs.Workspace.ChangingDisk
import PawnScope.Proofs.Workspace.Closing
import PawnScope.Proofs.Workspace.Closure
import PawnScope.Proofs.Workspace.Current
import PawnScope.Proofs.Workspace.Expansion
import PawnScope.Proofs.Workspace.FirstScan
import PawnScope.Proofs.Workspace.Freshness
import PawnScope.Proofs.Workspace.History
import PawnScope.Proofs.Workspace.Idempotence
import PawnScope.Proofs.Workspace.Indexing
import PawnScope.Proofs.Workspace.Loading
import PawnScope.Proofs.Workspace.MissingIncludes
import PawnScope.Proofs.Workspace.Names
import PawnScope.Proofs.Workspace.Order
import PawnScope.Proofs.Workspace.Rounds
import PawnScope.Proofs.Workspace.Settings
import PawnScope.Proofs.Workspace.Spelling
