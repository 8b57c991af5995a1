import StylesheetBuild.Cli.Host
import StylesheetBuild.Path.Resolve
import StylesheetBuild.Value.Printer

/-!
# The config commands

Writing a new global settings file, and showing the global settings or the options that apply to a
file. A file that cannot be read is shown as if it were empty.
-/

namespace StylesheetBuild.Cli

variable {m : Type → Type} [Monad m]

def initSettings (h : Host m) : ExceptT CommandError m Unit := do
  let file ← ExceptT.adapt CommandError.setup do
    Settings.install h.files (← MonadExcept.ofExcept h.homeDirectory)
  ExceptT.lift (h.printLine ("Settings initialized at: " ++ file.text))

/-- The settings in the global file, or those of a new one if it is missing. -/
def loadGlobal (h : Host m) (file : Path) : ExceptT SetupError m Options := do
  if ← ExceptT.lift (h.files.holds file) then
    ExceptT.adapt Settings.LoadError.toSetupError (Settings.load h.decode h.files file)
  else pure Settings.initial

def displayGlobal (h : Host m) : ExceptT CommandError m Unit := do
  let (file, options) ← ExceptT.adapt CommandError.setup do
    let file ← MonadExcept.ofExcept h.globalSettings
    return (file, ← loadGlobal h file)
  ExceptT.lift (h.printLine ("# " ++ file.text))
  match Settings.render? options with
  | none => throw .unwritableSettings
  | some text => ExceptT.lift (h.printLine text)

def resolutionLines (r : ResolvedOptions) : List String :=
  r.workspaceRoot.toList.map (fun root => "# workspace: " ++ root.text) ++
    r.warnings.map (fun w => "# warning: " ++ w.message) ++ [r.options.toValue.pretty]

def displayFor [WorkingDirectory] (h : Host m) (file : Path) : ExceptT CommandError m Unit :=
  match file.toAbsolute with
  | .error e => throw (.unshowable e)
  | .ok p => ExceptT.lift do
    let content := (← (h.files.readText p).run).toOption.getD ""
    let document : Document := ⟨p, content⟩
    let resolved := document.resolve (← h.settings p)
    (resolutionLines resolved).forM h.printLine

def displaySettings [WorkingDirectory] (h : Host m) : Option Path → ExceptT CommandError m Unit
  | none => displayGlobal h
  | some file => displayFor h file

end StylesheetBuild.Cli
