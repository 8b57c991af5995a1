import StylesheetBuild.Compile.Pipeline
import StylesheetBuild.Diagnostic.Collection
import StylesheetBuild.Options.Resolution

/-!
# Compiling on behalf of a host

One run resolves the options of a document, compiles it and keeps the diagnostics up to date: a
success clears those of the document, a failure replaces those of the affected file by exactly one.
-/

namespace StylesheetBuild

/-- Answers which settings apply to a document. -/
abbrev SettingsStore (m : Type → Type) := Path → m (Option ScopedSettings)

structure CommandOutcome where
  warnings : List OptionWarning
  result : Except Diagnostic CompileReport

def CommandOutcome.isSuccess (o : CommandOutcome) : Bool :=
  o.result.isOk

/-- How the outcome for a document changes the diagnostics. -/
def DiagnosticCollection.record (c : DiagnosticCollection) (document : Path) :
    Except Diagnostic CompileReport → DiagnosticCollection
  | .ok _ => c.delete document
  | .error d => c.recordFailure d

namespace Compiler

variable [WorkingDirectory] [Monad m]

def report (progress : Progress m) : Except Diagnostic CompileReport → m Unit
  | .ok r => progress.done r
  | .error d => progress.failed d

def requestOf (document : Document) (settings : Option ScopedSettings) : ResolvedRequest :=
  let resolved := document.resolve settings
  ⟨document.path, document.content, resolved.options, resolved.workspaceRoot⟩

def execute (c : Compiler m) (store : SettingsStore m) (progress : Progress m)
    (document : Document) (diagnostics : DiagnosticCollection) :
    m (CommandOutcome × DiagnosticCollection) := do
  let request := requestOf document (← store document.path)
  progress.started request.options.extensionLabel
  let result := (← (c.compileResolved progress request).run).mapError
    fun e => Diagnostic.ofError e document.path
  report progress result
  pure (⟨request.options.warnings, result⟩, diagnostics.record document.path result)

end Compiler

end StylesheetBuild
