/-!
# Scanning

A scanner reads a part of a text and leaves the rest, or fails. `repeatedly` runs one as often as
it succeeds.
-/

namespace StylesheetBuild.Toml

abbrev Scanner (α : Type) := List Char → Option (α × List Char)

/-- Drops one expected character. -/
def expect (c : Char) : List Char → Option (List Char)
  | [] => none
  | d :: rest => if c = d then some rest else none

/-- Runs a scanner until it fails, but at most once for each character of `budget`. -/
def repeatedlyWithin (budget : List Char) (scan : Scanner α) (cs : List Char) :
    List α × List Char :=
  match budget with
  | [] => ([], cs)
  | _ :: budget =>
    match scan cs with
    | none => ([], cs)
    | some (a, rest) =>
      let more := repeatedlyWithin budget scan rest
      (a :: more.1, more.2)

/-- Runs a scanner until it fails. A scanner that consumes something succeeds no more often than
there are characters. -/
def repeatedly (scan : Scanner α) (cs : List Char) : List α × List Char :=
  repeatedlyWithin cs scan cs

/-- The text without a leading `word`. -/
def dropWord? (word cs : List Char) : Option (List Char) :=
  if word.isPrefixOf cs then some (cs.drop word.length) else none

def isSpace (c : Char) : Bool :=
  c == ' ' || c == '\t'

def skipSpaces (cs : List Char) : List Char :=
  cs.dropWhile isSpace

/-- A line feed, alone or after a carriage return. -/
def newline? : List Char → Option (List Char)
  | '\n' :: rest => some rest
  | '\r' :: '\n' :: rest => some rest
  | _ => none

/-- Any character but the control characters; the tab is not one of them. -/
def isPrintable (c : Char) : Bool :=
  c == '\t' || (32 ≤ c.toNat && c.toNat != 127)

/-- A comment runs up to the end of its line. -/
def skipComment : List Char → List Char
  | '#' :: rest => rest.dropWhile isPrintable
  | cs => cs

/-- Spaces and a comment up to the end of a line, or of the text. -/
def lineEnd? (cs : List Char) : Option (List Char) :=
  match skipComment (skipSpaces cs) with
  | [] => some []
  | rest => newline? rest

/-- Spaces, line ends and comments between the items of an array. -/
def skipLayout (cs : List Char) : List Char :=
  (repeatedly (fun cs => (newline? (skipComment (skipSpaces cs))).map ((), ·)) cs).2 |> skipSpaces

end StylesheetBuild.Toml
