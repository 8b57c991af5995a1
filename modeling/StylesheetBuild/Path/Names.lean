import StylesheetBuild.Path.Basic

/-!
# Names within a path

The file name, its stem and its extension, the parent and the ancestors of a path. A path keeps
its spelling: its parent is the text up to the last component, without the slashes and `.` segments
that end it.
-/

namespace StylesheetBuild.Path

/-- Nothing for the root, for an empty path and for a path that ends in `..`. -/
def fileName? (p : Path) : Option String :=
  p.components.getLast?.bind Component.name?

/-- A file name up to its last dot, and the part after it. A dot that starts the name counts as a
letter. -/
def splitExtension (name : List Char) : List Char × Option (List Char) :=
  let after := name.reverse.takeWhile (· != '.')
  match name.reverse.dropWhile (· != '.') with
  | [] | [_] => (name, none)
  | _ :: before => (before.reverse, some after.reverse)

def stem? (p : Path) : Option String :=
  p.fileName?.map fun name => String.ofList (splitExtension name.toList).1

def extension? (p : Path) : Option String :=
  p.fileName?.bind fun name => (splitExtension name.toList).2.map String.ofList

def isSilent (segment : List Char) : Bool :=
  (Component.ofSegment? segment).isNone

/-- Segments in reverse order without the silent ones at the end of the path. -/
def dropSilent (reversed : List (List Char)) : List (List Char) :=
  reversed.dropWhile isSilent

def joinSegments (segments : List (List Char)) : List Char :=
  ['/'].intercalate segments

def parent? (p : Path) : Option Path :=
  match p.lead, p.segments with
  | some .root, segments =>
    match dropSilent segments.tail.reverse with
    | [] => none
    | _ :: rest => some (ofChars ('/' :: joinSegments (dropSilent rest).reverse))
  | some _, segments =>
    match dropSilent segments.tail.reverse with
    | [] => some empty
    | _ :: rest => some (ofChars (joinSegments (['.'] :: (dropSilent rest).reverse)))
  | none, segments =>
    match dropSilent segments.reverse with
    | [] => none
    | _ :: rest => some (ofChars (joinSegments (dropSilent rest).reverse))

/-- The directory that holds the path; empty where there is no parent. -/
def directory (p : Path) : Path :=
  p.parent?.getD empty

/-- The path with the given extension in place of that of its file name, if it has one; unchanged
where there is no file name. -/
def withExtension (p : Path) (extension : String) : Path :=
  match p.fileName? with
  | none => p
  | some name =>
    let stem := (splitExtension name.toList).1
    let before := (dropSilent p.segments.reverse).tail
    ofChars (joinSegments ((stem ++ '.' :: extension.toList) :: before).reverse)

def ancestorsUpTo : Nat → Path → List Path
  | 0, p => [p]
  | n + 1, p => p :: (p.parent?.map (ancestorsUpTo n)).getD []

/-- The path, its parent, the parent of that, and so on. -/
def ancestors (p : Path) : List Path :=
  ancestorsUpTo p.components.length p

end StylesheetBuild.Path
