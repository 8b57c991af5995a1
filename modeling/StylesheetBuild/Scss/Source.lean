import StylesheetBuild.Scss.Engine

/-!
# Source text with positions

Every character of a source text is marked with its line and column, so that an error can name the
place where it arose. A carriage return, with the line feed that follows it if there is one, and a
form feed are read as a line feed. Blanks are those of ASCII; any other character that shows
nothing is part of a word.
-/

namespace StylesheetBuild.Scss

namespace Position

def start : Position := ⟨0, 0⟩

def after (p : Position) (c : Char) : Position :=
  if c = '\n' then ⟨p.line + 1, 0⟩ else ⟨p.line, p.column + 1⟩

def isBefore (p q : Position) : Bool :=
  p.line < q.line || p.line == q.line && p.column < q.column

end Position

/-- Line ends other than a line feed do not occur in marked text. -/
def isBlankChar (c : Char) : Bool :=
  c == ' ' || c == '\t' || c == '\n'

def isQuote (c : Char) : Bool :=
  c == '"' || c == '\''

structure Mark where
  char : Char
  position : Position

namespace Mark

def markFrom : Position → List Char → List Mark
  | _, [] => []
  | p, c :: cs => ⟨c, p⟩ :: markFrom (p.after c) cs

def unifyLineEnds : List Mark → List Mark
  | [] => []
  | m :: ms =>
    if m.char = '\r' ∧ ms.head?.map char = some '\n' then unifyLineEnds ms
    else if m.char = '\r' ∨ m.char = '\x0c' then ⟨'\n', m.position⟩ :: unifyLineEnds ms
    else m :: unifyLineEnds ms

/-- The marked characters of a text, without a byte order mark at its start. -/
def ofText (text : String) : List Mark :=
  unifyLineEnds ((markFrom .start text.toList).dropWhile fun m =>
    m.char = '\ufeff' ∧ m.position = .start)

def isBlank (m : Mark) : Bool :=
  isBlankChar m.char

/-- Splits at the commas outside of quoted strings, of which one starts at `quote` if it is given. -/
def splitAtCommas (quote : Option Char) : List Mark → List (List Mark)
  | [] => [[]]
  | m :: ms =>
    if quote.isNone && m.char == ',' then [] :: splitAtCommas none ms
    else
      let quote := if quote = some m.char then none
        else quote.or (if isQuote m.char then some m.char else none)
      (splitAtCommas quote ms).modifyHead (m :: ·)

def trim (ms : List Mark) : List Mark :=
  ((ms.dropWhile isBlank).reverse.dropWhile isBlank).reverse

def chars (ms : List Mark) : List Char :=
  ms.map char

def text (ms : List Mark) : String :=
  String.ofList (chars ms)

theorem chars_markFrom (p : Position) (cs : List Char) : chars (markFrom p cs) = cs := by
  induction cs generalizing p with
  | nil => rfl
  | cons c cs ih => exact congrArg (c :: ·) (ih _)

end Mark

end StylesheetBuild.Scss
