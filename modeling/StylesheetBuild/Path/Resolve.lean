import StylesheetBuild.Path.WorkingDirectory

/-!
# Absolute and folded paths

Relative paths are read from the working directory. `toAbsolute` keeps `..` and a trailing slash;
`resolve` also folds each `..` with the name before it, and a `..` at the root stays at the root.
`relative` leads back: from a directory up to the common part of two paths and down again.
-/

namespace StylesheetBuild.Path

/-- Exactly two leading slashes are kept, any other number is one. -/
def absoluteLead (p : Path) : String :=
  match p.chars with
  | '/' :: '/' :: '/' :: _ => "/"
  | '/' :: '/' :: _ => "//"
  | _ => "/"

/-- One step down into a name or up to the parent, on the names passed so far. -/
def walk (names : List String) : Component → List String
  | .parent => names.dropLast
  | .name s => names ++ [s]
  | _ => names

def foldedNames (p : Path) : List String :=
  p.components.foldl walk []

/-- The path without `.` and with each `..` folded. -/
def fold (p : Path) : Path :=
  if p.isAbsolute then ofNames p.foldedNames else ⟨"/".intercalate p.foldedNames⟩

section

variable [WorkingDirectory]

/-- Where the steps of a path start. -/
def absoluteStart (p : Path) : Except IoError Path :=
  if p.isAbsolute then .ok ⟨p.absoluteLead⟩ else WorkingDirectory.current

/-- The empty path has no absolute form, and no relative path has one without a working
directory. -/
def toAbsolute (p : Path) : Except IoError Path :=
  if p.isEmpty then .error .emptyPath
  else do
    let start ← p.absoluteStart
    let whole := p.steps.foldl (fun q step => q.joinText step.text) start
    pure (if p.endsWithSlash then whole.joinText "" else whole)

/-- The absolute form, or the path itself where there is none. -/
def absolute (p : Path) : Path :=
  p.toAbsolute.toOption.getD p

/-- The path seen from the directory `base`, absolute if it can be and without `.` and `..`. -/
def resolve (base p : Path) : Path :=
  (base.join p).absolute.fold

def folded (p : Path) : Path :=
  empty.resolve p

end

/-- How many leading items two lists share. -/
def commonLength [DecidableEq α] : List α → List α → Nat
  | a :: as, b :: bs => if a = b then commonLength as bs + 1 else 0
  | _, _ => 0

def relativeComponents (start goal : List Component) : List Component :=
  let common := commonLength start goal
  List.replicate (start.length - common) .parent ++ goal.drop common

/-- The path leading from one directory to another; empty when they are the same. -/
def relative [WorkingDirectory] (start goal : Path) : Path :=
  ofComponents (relativeComponents start.folded.components goal.folded.components)

end StylesheetBuild.Path
