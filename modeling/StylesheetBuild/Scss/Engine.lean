import StylesheetBuild.Error.Io
import StylesheetBuild.Path.Basic

/-!
# Engines

The compiler of SCSS is not part of the program: it is whatever an `Engine` does. It is started with
a text or with the path of a file, sees files through three operations only, and answers with a
stylesheet or says why there is none.
-/

namespace StylesheetBuild.Scss

/-- Lines and columns count from zero. -/
structure Position where
  line : Nat
  column : Nat
deriving DecidableEq

/-- Why a text is refused, and where. -/
structure Refusal where
  message : String
  position : Position

/-- Why there is no stylesheet. -/
inductive Failure where
  | refused (refusal : Refusal) (file : String)
  | unreadable (cause : IoError)
  /-- A file is not valid UTF-8. -/
  | notText (message : String)
  | unrecognised

inductive Style where
  | expanded
  | compressed
deriving DecidableEq

/-- The files that an engine sees. -/
structure SourceFiles (m : Type → Type) where
  isFile : Path → m Bool
  isDirectory : Path → m Bool
  read : Path → ExceptT IoError m ByteArray

structure EngineOptions (m : Type → Type) where
  files : SourceFiles m
  /-- Directories that imports are looked for in. -/
  loadPaths : List Path
  style : Style

structure Engine (m : Type → Type) where
  compileFile : EngineOptions m → Path → ExceptT Failure m String
  compileText : EngineOptions m → String → ExceptT Failure m String

/-- The name under which an engine reports errors in a text without a path. -/
def unnamedSource : String := "stdin"

end StylesheetBuild.Scss
