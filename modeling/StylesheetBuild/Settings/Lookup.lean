import StylesheetBuild.Files.FileSystem
import StylesheetBuild.Options.Resolution
import StylesheetBuild.Settings.File

/-!
# Finding settings

A document is governed by the nearest settings file at or above its directory, on top of the global
file. A file that cannot be read or does not hold options counts as an empty layer, but as the
nearest one it still hides those above it and marks the workspace.
-/

namespace StylesheetBuild.Settings

def fileName : String := "stylepress.toml"

/-- The directory of the global settings file under the home directory. -/
def configDirectoryName : String := ".stylepress"

def configDirectory (home : Path) : Path :=
  home.joinText configDirectoryName

def globalPath (home : Path) : Path :=
  (configDirectory home).joinText fileName

/-- Why there is no place for a global settings file. -/
def homelessMessage : String := "could not determine home directory"

inductive LoadError where
  | unreadable (path : Path) (cause : IoError)
  /-- The file is no document or its options have the wrong shape. -/
  | malformed (path : Path)

def LoadError.toSetupError : LoadError → SetupError
  | unreadable path cause => .io path cause
  | malformed path => .config ("failed to parse " ++ path.text ++ ":")

def LoadError.message (e : LoadError) : String :=
  e.toSetupError.message

variable {m : Type → Type} [Monad m]

def load (decode : Decoder) (fs : FileSystem m) (p : Path) : ExceptT LoadError m Options :=
  ExceptT.mk do
    match ← (fs.readText p).run with
    | .error e => pure (.error (.unreadable p e))
    | .ok text =>
      match parse? decode text with
      | none => pure (.error (.malformed p))
      | some o => pure (.ok o)

def load? (decode : Decoder) (fs : FileSystem m) (p : Path) : m (Option Options) := do
  return (← (load decode fs p).run).toOption

/-- The settings file in `start` or in the nearest directory above it that has one. -/
def findWorkspace? (fs : FileSystem m) (start : Path) : m (Option Path) :=
  (start.ancestors.map (·.joinText fileName)).findM? fs.isFile

/-- The global layer; nothing if there is no readable global file. -/
def globalLayer? (decode : Decoder) (fs : FileSystem m) (file : Option Path) :
    m (Option Options) := do
  match file with
  | none => pure none
  | some p => if ← fs.isFile p then load? decode fs p else pure none

/-- The layer of the workspace file together with its directory. -/
def workspace? (decode : Decoder) (fs : FileSystem m) (document : Path) :
    m (Option (Options × Path)) := do
  match document.parent? with
  | none => pure none
  | some dir =>
    match ← findWorkspace? fs dir with
    | none => pure none
    | some file => return some ((← load? decode fs file).getD .empty, file.directory)

/-- Nothing if there are neither global settings nor a workspace file. -/
def combine (global : Option Options) (workspace : Option (Options × Path)) :
    Option ScopedSettings :=
  match global, workspace with
  | none, none => none
  | _, _ => some
    { options := (global.getD .empty).merge ((workspace.map Prod.fst).getD .empty)
      workspaceRoot := workspace.map Prod.snd }

def lookup (decode : Decoder) (fs : FileSystem m) (global : Option Path) (document : Path) :
    m (Option ScopedSettings) := do
  let globalLayer ← globalLayer? decode fs global
  let workspace ← workspace? decode fs document
  pure (combine globalLayer workspace)

/-- Writes a new global settings file and returns its path. -/
def install (fs : FileSystem m) (home : Path) : ExceptT SetupError m Path := do
  let dir := configDirectory home
  failing dir (fs.createDirectories dir)
  let file := globalPath home
  match render? initial with
  | none => throw (.config unwritableMessage)
  | some text =>
    failing file (fs.write file text)
    pure file
where
  failing (p : Path) (action : ExceptT IoError m Unit) : ExceptT SetupError m Unit :=
    ExceptT.mk do return (← action.run).mapError (.io p)

end StylesheetBuild.Settings
