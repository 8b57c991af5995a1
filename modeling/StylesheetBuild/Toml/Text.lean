import StylesheetBuild.Toml.Scan

/-!
# Strings and keys

Basic strings with escapes and literal strings without, each on one line or on several, and the
keys made of them. A line end inside a string of several lines is a line feed however it is
written, and one right after the opening quotes is dropped.
-/

namespace StylesheetBuild.Toml

def hexDigit? (c : Char) : Option Nat :=
  if c.isDigit then some (c.toNat - 48)
  else if 'a' ≤ c ∧ c ≤ 'f' then some (c.toNat - 87)
  else if 'A' ≤ c ∧ c ≤ 'F' then some (c.toNat - 55)
  else none

/-- The character with a code point of `count` hexadecimal digits. -/
def codePoint (count : Nat) : Scanner Char := fun cs => do
  let digits ← (cs.take count).mapM hexDigit?
  let n := digits.foldl (fun n d => 16 * n + d) 0
  if digits.length = count ∧ n.isValidChar then some (Char.ofNat n, cs.drop count) else none

/-- What follows a backslash. -/
def escaped : Scanner Char
  | 'b' :: rest => some ('\x08', rest)
  | 't' :: rest => some ('\t', rest)
  | 'n' :: rest => some ('\n', rest)
  | 'f' :: rest => some ('\x0c', rest)
  | 'r' :: rest => some ('\r', rest)
  | '"' :: rest => some ('"', rest)
  | '\\' :: rest => some ('\\', rest)
  | 'u' :: rest => codePoint 4 rest
  | 'U' :: rest => codePoint 8 rest
  | _ => none

/-- One character of a basic string. -/
def basicChar : Scanner Char
  | [] => none
  | '"' :: _ => none
  | '\\' :: rest => escaped rest
  | c :: rest => if isPrintable c then some (c, rest) else none

def literalChar : Scanner Char
  | [] => none
  | '\'' :: _ => none
  | c :: rest => if isPrintable c then some (c, rest) else none

def closedBy (quote : Char) (body : Scanner Char) : Scanner String := fun cs => do
  let (chars, rest) := repeatedly body cs
  let rest ← expect quote rest
  some (String.ofList chars, rest)

def basicLine : Scanner String := closedBy '"' basicChar

def literalLine : Scanner String := closedBy '\'' literalChar

/-- A backslash that ends a line, with all blanks and line ends after it. -/
def foldedLine? (cs : List Char) : Option (List Char) := do
  let rest ← newline? (skipSpaces cs)
  let blankLine : Scanner Unit := fun cs => (newline? (skipSpaces cs)).map ((), ·)
  some (skipSpaces (repeatedly blankLine rest).2)

/-- A piece of a basic string of several lines, quotes apart. -/
def basicPiece : Scanner (List Char)
  | '\\' :: rest =>
    match foldedLine? rest with
    | some rest => some ([], rest)
    | none => (escaped rest).map fun r => ([r.1], r.2)
  | cs =>
    match newline? cs with
    | some rest => some (['\n'], rest)
    | none => (basicChar cs).map fun r => ([r.1], r.2)

def literalPiece (cs : List Char) : Option (List Char × List Char) :=
  match newline? cs with
  | some rest => some (['\n'], rest)
  | none => (literalChar cs).map fun r => ([r.1], r.2)

/-- One or two quotes that do not close the string, with the piece after them. -/
def looseQuotes (quote : Char) (piece : Scanner (List Char)) : Scanner (List Char) := fun cs =>
  let quotes := cs.takeWhile (· == quote)
  if quotes.length < 3 then
    (piece (cs.drop quotes.length)).map fun r => (quotes ++ r.1, r.2)
  else none

/-- The closing quotes, before which the string may end in one or two quotes. -/
def closing (quote : Char) : Scanner (List Char) := fun cs =>
  let quotes := (cs.take 5).takeWhile (· == quote)
  if quotes.length < 3 then none else some (quotes.drop 3, cs.drop quotes.length)

def severalLines (quote : Char) (piece : Scanner (List Char)) : Scanner String := fun cs => do
  let cs := (newline? cs).getD cs
  let (pieces, rest) := repeatedly (looseQuotes quote piece) cs
  let (quotes, rest) ← closing quote rest
  some (String.ofList (pieces.flatten ++ quotes), rest)

def string : Scanner String
  | '"' :: '"' :: '"' :: rest => severalLines '"' basicPiece rest
  | '\'' :: '\'' :: '\'' :: rest => severalLines '\'' literalPiece rest
  | '"' :: rest => basicLine rest
  | '\'' :: rest => literalLine rest
  | _ => none

def isBareKeyChar (c : Char) : Bool :=
  c.isAlphanum || c == '_' || c == '-'

def simpleKey : Scanner String
  | '"' :: rest => basicLine rest
  | '\'' :: rest => literalLine rest
  | cs =>
    let name := cs.takeWhile isBareKeyChar
    if name.isEmpty then none else some (String.ofList name, cs.drop name.length)

/-- A part of a dotted key, with the blanks around it. -/
def keyPart : Scanner String := fun cs => do
  let (name, rest) ← simpleKey (skipSpaces cs)
  some (name, skipSpaces rest)

/-- Arrays and inline tables nest less deep than this, and a key has fewer parts. -/
def nestingLimit : Nat := 80

/-- One or more parts with dots between them. -/
def dottedKey : Scanner (List String) := fun cs => do
  let (first, rest) ← keyPart cs
  let (others, rest) := repeatedly (fun cs => (expect '.' cs).bind keyPart) rest
  if others.length + 1 < nestingLimit then some (first :: others, rest) else none

end StylesheetBuild.Toml
