import StylesheetBuild.Scss.Source

/-!
# Chunks of source text

A text is cut at braces and semicolons into the heads of rules, their closing braces and the items
in between. Braces and semicolons in quoted strings do not cut. Of a comment from `//` to the end of
the line only the place is kept; a comment between `/*` and its end is a chunk of its own where a
statement may start and a blank elsewhere.
-/

namespace StylesheetBuild.Scss

inductive Chunk where
  | comment (text : List Mark)
  /-- A comment to the end of its line, also one inside the text of the chunk that comes next. -/
  | silentComment (position : Position)
  /-- What stands before an opening brace. -/
  | opening (head : List Mark) (brace : Position)
  | closing (position : Position)
  /-- Text that ends at a semicolon, a closing brace or the end, which is at `stop`. -/
  | item (text : List Mark) (stop : Position)
  /-- A comment that runs into the end of the text. -/
  | unended (last : Position)

namespace Chunk

def silentComment? : Chunk → Option Position
  | silentComment p => some p
  | _ => none

/-- What the next character belongs to. -/
inductive Mode where
  | plain
  | slash (mark : Mark)
  | silentComment
  | comment (text : List Mark) (star : Bool)
  | quoted (quote : Char) (escaped : Bool)

/-- Text held back and chunks found, newest first. -/
structure Scan where
  mode : Mode := .plain
  held : List Mark := []
  chunks : List Chunk := []

namespace Scan

def isStatementStart (s : Scan) : Bool :=
  s.held.all Mark.isBlank

def emit (s : Scan) (c : Chunk) : Scan :=
  { s with held := [], chunks := c :: s.chunks }

/-- The text that is held back goes on after the comment. -/
def passSilentComment (s : Scan) (p : Position) : Scan :=
  { s with mode := .silentComment, chunks := .silentComment p :: s.chunks }

def emitItem (s : Scan) (stop : Position) : Scan :=
  if s.isStatementStart then { s with held := [] }
  else s.emit (.item (s.held.reverse.dropWhile Mark.isBlank) stop)

def hold (s : Scan) (m : Mark) : Scan :=
  { s with held := m :: s.held }

def stepPlain (s : Scan) (m : Mark) : Scan :=
  match m.char with
  | '/' => { s with mode := .slash m }
  | '\x7b' => s.emit (.opening (Mark.trim s.held.reverse) m.position)
  | '\x7d' => (s.emitItem m.position).emit (.closing m.position)
  | ';' => s.emitItem m.position
  | c => if isQuote c then { s.hold m with mode := .quoted c false } else s.hold m

/-- The blank that a comment inside a statement amounts to; it keeps a line end. -/
def blankOf (text : List Mark) (stop : Position) : Mark :=
  ⟨if text.any (·.char = '\n') then '\n' else ' ', stop⟩

/-- The text is the comment from its last character to its first. -/
def endComment (s : Scan) (last : Mark) (text : List Mark) : Scan :=
  let s := { s with mode := .plain }
  if s.isStatementStart then s.emit (.comment (last :: text).reverse)
  else s.hold (blankOf text last.position)

def step (s : Scan) (m : Mark) : Scan :=
  match s.mode with
  | .plain => s.stepPlain m
  | .slash slash =>
    match m.char with
    | '/' => s.passSilentComment slash.position
    | '*' => { s with mode := .comment [m, slash] false }
    | _ => ({ s.hold slash with mode := .plain } : Scan).stepPlain m
  | .silentComment => if m.char = '\n' then { s.hold m with mode := .plain } else s
  | .comment text star =>
    if star && m.char = '/' then s.endComment m text
    else { s with mode := .comment (m :: text) (m.char = '*') }
  | .quoted quote escaped =>
    let s := s.hold m
    if escaped then { s with mode := .quoted quote false }
    else if m.char = '\\' then { s with mode := .quoted quote true }
    else if m.char = quote then { s with mode := .plain }
    else s

/-- The chunks of a text whose last character is at `last`. -/
def finish (s : Scan) (last : Position) : List Chunk :=
  match s.mode with
  | .comment _ _ => (s.emit (.unended last)).chunks.reverse
  | .slash slash => ((s.hold slash).emitItem last).chunks.reverse
  | _ => (s.emitItem last).chunks.reverse

end Scan

/-- Where an error is reported that shows only at the end of the text. -/
def lastPosition (text : List Mark) : Position :=
  (text.getLast?.map Mark.position).getD .start

def ofMarks (text : List Mark) : List Chunk :=
  (text.foldl Scan.step {}).finish (lastPosition text)

end Chunk

end StylesheetBuild.Scss
