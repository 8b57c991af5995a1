import StylesheetBuild.Cli.Arguments
import StylesheetBuild.Cli.Host
import StylesheetBuild.Compile.Command
import StylesheetBuild.Scss.Renderer
import StylesheetBuild.Stage.Banner

/-!
# The compile command

Compiles the listed files in their order, whatever happens to the earlier ones, and then prints the
diagnostics that are left. Files without the extension of a stylesheet source are skipped.
-/

namespace StylesheetBuild.Cli

def sourceExtensions : List String := [".less", ".scss"]

/-- The path ends in a source extension, in upper or lower case. -/
def hasSourceExtension (p : Path) : Bool :=
  sourceExtensions.any fun e => e.toList.isSuffixOf (p.chars.map Char.toLower)

def CompileArguments.accepts (a : CompileArguments) (file : Path) : Bool :=
  a.anyExtension || hasSourceExtension file

/-- The diagnostics after the files so far, and how many of those failed. -/
structure Tally where
  diagnostics : DiagnosticCollection := .empty
  failed : Nat := 0

namespace Tally

def afterUnreadable [WorkingDirectory] (t : Tally) (file : Path) (cause : IoError) : Tally where
  diagnostics := t.diagnostics.recordFailure (.ofError (.filesystem file cause) file)
  failed := t.failed + 1

def afterCompile (t : Tally) (diagnostics : DiagnosticCollection) (outcome : CommandOutcome) :
    Tally where
  diagnostics := diagnostics
  failed := if outcome.isSuccess then t.failed else t.failed + 1

end Tally

/-- How much of a digest is shown. -/
def digestLength : Nat := 12

def artifactLine (a : ArtifactMeta) : String :=
  "  wrote " ++ a.path.text ++ " (" ++ toString a.sizeBytes ++ " bytes, sha256 " ++
    String.ofList (a.sha256.toList.take digestLength) ++ ")"

def elapsedLine (elapsed : String) : String :=
  "  compiled in " ++ elapsed ++ "ms"

def warningLine (file : Path) (w : OptionWarning) : String :=
  file.text ++ ": warning: " ++ w.message

def skippedLine (file : Path) : String :=
  "skipping " ++ file.text ++ ": not a " ++ " or ".intercalate sourceExtensions ++ " file"

section

variable {m : Type → Type} [Monad m]

def compilerOf (h : Host m) (banner : Option String) : Compiler m where
  stages := (banner.map Banner.stage).toList
  renderer := Scss.renderer h.engine h.files
  writer := h.files.artifactWriter

/-- A compile without artifacts is not reported. -/
def printReport (h : Host m) (elapsed : String) (r : CompileReport) : m Unit := do
  unless r.isNoop do
    r.artifacts.forM fun a => h.printLine (artifactLine a)
    h.printLine (elapsedLine elapsed)

variable [WorkingDirectory]

def compileDocument (h : Host m) (c : Compiler m) (t : Tally) (document : Document) :
    m Tally := do
  let elapsed ← h.stopwatch
  let (outcome, diagnostics) ← c.execute h.settings .silent document t.diagnostics
  let elapsed ← elapsed
  outcome.warnings.forM fun w => h.noteLine (warningLine document.path w)
  match outcome.result with
  | .ok r => printReport h elapsed r
  | .error _ => pure ()
  pure (t.afterCompile diagnostics outcome)

/-- Reads and compiles one file, given by its absolute path. -/
def compileFile (h : Host m) (c : Compiler m) (t : Tally) (file : Path) : m Tally := do
  match ← (h.files.readText file).run with
  | .error e => pure (t.afterUnreadable file e)
  | .ok content => compileDocument h c t ⟨file, content⟩

def visitFile (h : Host m) (c : Compiler m) (a : CompileArguments) (t : Tally) (file : Path) :
    ExceptT CommandError m Tally :=
  if a.accepts file then
    match file.toAbsolute with
    | .error e => throw (.unresolvable file e)
    | .ok p => ExceptT.lift (compileFile h c t p)
  else do
    ExceptT.lift (h.noteLine (skippedLine file))
    pure t

def compileFiles (h : Host m) (a : CompileArguments) : ExceptT CommandError m Unit := do
  let t ← a.files.foldlM (visitFile h (compilerOf h a.banner) a) {}
  ExceptT.lift (t.diagnostics.toList.forM fun d => h.noteLine d.text)
  if t.failed > 0 then throw (.failedFiles t.failed a.files.length)

end

end StylesheetBuild.Cli
