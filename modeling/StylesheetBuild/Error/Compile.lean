import StylesheetBuild.Error.Io
import StylesheetBuild.Path.Basic
import StylesheetBuild.Text.Quoted

/-!
# Failures of a build

What can stop the compile of one document, and what can stop setting the program up.
-/

namespace StylesheetBuild

inductive CompileError where
  /-- A file could not be read or written. -/
  | filesystem (path : Path) (cause : IoError)
  /-- The renderer refused the source text; lines count from one and columns from zero. -/
  | render (message : String) (line column : Option Nat) (filename : Option String)
  | unknown (message : String)
deriving DecidableEq

namespace CompileError

def code? : CompileError → Option String
  | filesystem _ cause => some cause.code
  | _ => none

def message : CompileError → String
  | filesystem path cause => cause.code ++ ": " ++ Text.quoted path.text ++ ": " ++ cause.message
  | render message _ _ _ => message
  | unknown message => message

end CompileError

inductive SetupError where
  | config (message : String)
  | io (path : Path) (cause : IoError)
deriving DecidableEq

def SetupError.message : SetupError → String
  | config message => "config error: " ++ message
  | io path cause => "I/O error at " ++ Text.quoted path.text ++ ": " ++ cause.message

end StylesheetBuild
