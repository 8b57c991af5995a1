import StylesheetBuild.Error.Compile
import StylesheetBuild.Path.Names
import StylesheetBuild.Path.Resolve

/-!
# Diagnostics

A diagnostic is a message attached to a range of a file. Ranges count lines and columns from zero
in words of 32 bits; where the end of an error is unknown the range runs to column `endOfLine`.
Every failed compile becomes exactly one diagnostic.
-/

namespace StylesheetBuild

def endOfLine : UInt32 := 4096

structure Range where
  startLine : UInt32
  startColumn : UInt32
  endLine : UInt32
  endColumn : UInt32
deriving DecidableEq

namespace Range

def firstLine : Range := ⟨0, 0, 0, endOfLine⟩

def restOfLine (line column : UInt32) : Range := ⟨line, column, line, endOfLine⟩

/-- The empty range at the very start. -/
def documentStart : Range := ⟨0, 0, 0, 0⟩

end Range

structure Diagnostic where
  message : String
  range : Range
  affectedFile : Path
deriving DecidableEq

namespace Diagnostic

/-- Lines and columns are shown counted from one. -/
def text (d : Diagnostic) : String :=
  d.affectedFile.text ++ ":" ++ toString (d.range.startLine + 1) ++ ":" ++
    toString (d.range.startColumn + 1) ++ ": error: " ++ d.message

def isSeparator (c : Char) : Bool :=
  c == '/' || c == '\\'

/-- The file that an error names. A bare name that is the name of the document means the document;
any other name is read from the directory of the document. -/
def namedFile [WorkingDirectory] (filename : String) (document : Path) : Path :=
  let isBare := !filename.toList.any isSeparator
  if isBare && document.fileName? == some filename then document
  else (document.directory.joinText filename).absolute

/-- The nearest position that fits 32 bits. -/
def word (n : Nat) : UInt32 :=
  UInt32.ofNatClamp n

/-- Lines are reported counted from one. -/
def reportedRange : Option Nat → Option Nat → Range
  | some line, some column => .restOfLine (word (line - 1)) (word column)
  | _, _ => .firstLine

/-- The diagnostic of a failed compile of `document`. -/
def ofError [WorkingDirectory] (error : CompileError) (document : Path) : Diagnostic :=
  match error with
  | .filesystem path cause =>
    let message := if cause.kind.isUnopenable then "cannot open file '" ++ path.text ++ "'"
      else error.message
    ⟨message, .firstLine, document⟩
  | .render message _ _ none => ⟨message, .documentStart, document⟩
  | .render message line column (some filename) =>
    ⟨message, reportedRange line column, namedFile filename document⟩
  | .unknown message => ⟨message, .firstLine, document⟩

end Diagnostic

end StylesheetBuild
