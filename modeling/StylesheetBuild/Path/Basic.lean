/-!
# Paths

A path is its text, in Unicode: file names that are not UTF-8, and what is lost when they are shown
as text, lie outside of it. Its components are read off the segments between slashes: empty segments
and `.` are no components, except that a leading slash is the root and a leading `.` is the current
directory. Nothing here looks at a file system; `..` is a component like any other.
-/

namespace StylesheetBuild

structure Path where
  text : String
deriving DecidableEq, Inhabited

inductive Component where
  | root
  | current
  | parent
  | name (text : String)
deriving DecidableEq, Inhabited

namespace Component

def text : Component → String
  | root => "/"
  | current => "."
  | parent => ".."
  | name s => s

def name? : Component → Option String
  | name s => some s
  | _ => none

/-- The component that a segment inside a path stands for. -/
def ofSegment? (segment : List Char) : Option Component :=
  if segment = [] ∨ segment = ['.'] then none
  else if segment = ['.', '.'] then some parent
  else some (name (String.ofList segment))

end Component

namespace Path

def chars (p : Path) : List Char :=
  p.text.toList

def ofChars (cs : List Char) : Path :=
  ⟨String.ofList cs⟩

theorem chars_ofChars (cs : List Char) : (ofChars cs).chars = cs := by
  simp [ofChars, chars]

def empty : Path := ⟨""⟩

def isEmpty (p : Path) : Bool :=
  p.text.isEmpty

def isAbsolute (p : Path) : Bool :=
  p.chars.head? == some '/'

def endsWithSlash (p : Path) : Bool :=
  p.chars.getLast? == some '/'

def segments (p : Path) : List (List Char) :=
  p.chars.splitOn '/'

/-- The component before the first ordinary segment, if the path starts with `/` or `.`. -/
def lead (p : Path) : Option Component :=
  if p.isAbsolute then some .root
  else if p.segments.head? = some ['.'] then some .current
  else none

/-- The components after the lead. -/
def steps (p : Path) : List Component :=
  p.segments.filterMap Component.ofSegment?

def components (p : Path) : List Component :=
  p.lead.toList ++ p.steps

/-- An absolute operand replaces the base; an empty one adds a trailing slash to it. -/
def join (base p : Path) : Path :=
  if p.isAbsolute then p
  else if base.isEmpty || base.endsWithSlash then ⟨base.text ++ p.text⟩
  else ⟨base.text ++ "/" ++ p.text⟩

def joinText (base : Path) (text : String) : Path :=
  base.join ⟨text⟩

def ofComponents (cs : List Component) : Path :=
  cs.foldl (fun p c => p.joinText c.text) empty

/-- The absolute path with the given names. -/
def ofNames (names : List String) : Path :=
  ⟨"/" ++ "/".intercalate names⟩

end Path

end StylesheetBuild
