import StylesheetBuild.Files.Tree
import StylesheetBuild.Main
import StylesheetBuild.Proofs.Compile.Calls
import StylesheetBuild.Renderer.Script
import StylesheetBuild.Stage.Script
import StylesheetBuild.Proofs.Compile.Trace
import StylesheetBuild.Proofs.Diagnostic.Attempts
import StylesheetBuild.Proofs.Compile.Executions
import StylesheetBuild.Proofs.Cli.Failures
import StylesheetBuild.Proofs.Options.Layers
import StylesheetBuild.Proofs.Path.Parents
import StylesheetBuild.Proofs.Settings.Precedence
import StylesheetBuild.Proofs.Path.Folding
import StylesheetBuild.Proofs.Artifact.Placement
import StylesheetBuild.Proofs.Artifact.Warnings
import StylesheetBuild.Proofs.Artifact.Mirroring
import StylesheetBuild.Proofs.Artifact.Spelling
import StylesheetBuild.Proofs.Text.Lines
import StylesheetBuild.Proofs.Text.Trimming
import StylesheetBuild.Proofs.Directive.Cutting
import StylesheetBuild.Proofs.Directive.Printing
import StylesheetBuild.Proofs.Files.Following
import StylesheetBuild.Proofs.Files.Snapshot
import StylesheetBuild.Proofs.Settings.Spelling
import StylesheetBuild.Proofs.Diagnostic.Naming
import StylesheetBuild.Proofs.Settings.Initial
import StylesheetBuild.Proofs.Files.Writing
import StylesheetBuild.Proofs.Settings.Installing
import StylesheetBuild.Proofs.Scss.Entry
import StylesheetBuild.Proofs.Options.RoundTrip
import StylesheetBuild.Proofs.Diagnostic.Attribution
import StylesheetBuild.Proofs.Compile.Commuting
import StylesheetBuild.Proofs.Cli.Accounting
import StylesheetBuild.Proofs.Artifact.Leaf
import StylesheetBuild.Proofs.Artifact.Structure
import StylesheetBuild.Proofs.Artifact.Containment
import StylesheetBuild.Proofs.Artifact.DefaultName
import StylesheetBuild.Proofs.Compile.PassedOn
import StylesheetBuild.Proofs.Path.Canonical
import StylesheetBuild.Proofs.Artifact.Canonical
import StylesheetBuild.Proofs.Path.Route
import StylesheetBuild.Proofs.Compile.SourceMap
import StylesheetBuild.Proofs.Artifact.WrittenStem
import StylesheetBuild.Proofs.Artifact.Substitution
import StylesheetBuild.Proofs.Artifact.Overwriting
import StylesheetBuild.Proofs.Diagnostic.Ranges
import StylesheetBuild.Proofs.Directive.Prose
import StylesheetBuild.Proofs.Directive.Reach
import StylesheetBuild.Proofs.Options.Merging
import StylesheetBuild.Proofs.Stage.Banner
import StylesheetBuild.Proofs.Stage.Shifting
import StylesheetBuild.Proofs.Path.Stages
import StylesheetBuild.Proofs.Directive.Slicing
import StylesheetBuild.Proofs.Compile.Targets
