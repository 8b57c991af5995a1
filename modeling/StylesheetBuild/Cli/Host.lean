import StylesheetBuild.Files.FileSystem
import StylesheetBuild.Scss.Engine
import StylesheetBuild.Settings.Lookup

/-!
# The host of the program

What the commands use of the machine that they run on, and how a command fails.
-/

namespace StylesheetBuild.Cli

structure Host (m : Type → Type) where
  files : FileSystem m
  /-- The directory of the user, if it is known. -/
  home : Option Path
  engine : Scss.Engine m
  decode : Settings.Decoder
  /-- Prints one line of output. -/
  printLine : String → m Unit
  /-- Prints one line of remarks and errors. -/
  noteLine : String → m Unit
  /-- Starts a stopwatch; the answer reads the milliseconds since then. -/
  stopwatch : m (m String)

namespace Host

def homeDirectory (h : Host m) : Except SetupError Path :=
  match h.home with
  | some home => .ok home
  | none => .error (.config Settings.homelessMessage)

def globalSettings (h : Host m) : Except SetupError Path :=
  h.homeDirectory.map Settings.globalPath

def settings [Monad m] (h : Host m) (document : Path) : m (Option ScopedSettings) :=
  Settings.lookup h.decode h.files h.globalSettings.toOption document

end Host

inductive CommandError where
  | failedFiles (failed total : Nat)
  | setup (error : SetupError)
  /-- The settings hold a null. -/
  | unwritableSettings
  /-- A file that is compiled, or whose options are shown, has no absolute form. -/
  | unresolvable (file : Path) (cause : IoError)
  | unshowable (cause : IoError)
deriving DecidableEq

def CommandError.message : CommandError → String
  | failedFiles failed total =>
    toString failed ++ " of " ++ toString total ++ " file(s) failed to compile"
  | setup error => error.message
  | unwritableSettings => Settings.unwritableMessage
  | unresolvable file cause => "cannot resolve path '" ++ file.text ++ "': " ++ cause.message
  | unshowable cause => cause.message

end StylesheetBuild.Cli
