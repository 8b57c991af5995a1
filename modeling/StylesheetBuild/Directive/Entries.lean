/-!
# Entries of a directive line

A directive line is cut at the commas outside quotes. A quote is opened by either quote character
and closed by the next occurrence of the same one; the other kind inside it is ordinary text, and a
quote left open runs to the end of the line.
-/

namespace StylesheetBuild.Directive

def isQuote (c : Char) : Bool :=
  c == '"' || c == '\''

/-- The quote that is open after one more character. -/
def nextQuote : Option Char → Char → Option Char
  | some q, c => if c = q then none else some q
  | none, c => if isQuote c then some c else none

/-- The quote that is open after a text. -/
def openQuote (text : List Char) : Option Char :=
  text.foldl nextQuote none

def cutEntries : Option Char → List Char → List (List Char)
  | _, [] => [[]]
  | quote, c :: cs =>
    if quote = none ∧ c = ',' then [] :: cutEntries none cs
    else (cutEntries (nextQuote quote c) cs).modifyHead (c :: ·)

def entries (line : List Char) : List (List Char) :=
  cutEntries none line

end StylesheetBuild.Directive
