import StylesheetBuild.Decimal.Shortest
import StylesheetBuild.Value.Basic

/-!
# Writing a TOML document

A table is written as its plain values, one per line, and then its sub-tables, each under a header
of its own; an array that holds only tables is written as a sequence of sub-tables. A table without
plain values needs no header unless it is empty. Arrays of two or more items have one item per line.
There is no way to write null.
-/

namespace StylesheetBuild.Toml

/-- What decides how a string is quoted. -/
structure TextFeatures where
  hasNewline : Bool
  hasBackslash : Bool
  /-- A control character other than tab and line feed. -/
  hasControl : Bool
  singleQuoteRun : Nat
  doubleQuoteRun : Nat

/-- The length of the longest run of `q`. -/
def longestRun (q : Char) (cs : List Char) : Nat :=
  (cs.foldl (fun (run : Nat × Nat) c =>
    let current := if c = q then run.1 + 1 else 0
    (current, max run.2 current)) (0, 0)).2

def isControl (c : Char) : Bool :=
  (c.toNat < 32 || c.toNat == 127) && c != '\t' && c != '\n'

def TextFeatures.of (cs : List Char) : TextFeatures where
  hasNewline := cs.any (· == '\n')
  hasBackslash := cs.any (· == '\\')
  hasControl := cs.any isControl
  singleQuoteRun := longestRun '\'' cs
  doubleQuoteRun := longestRun '"' cs

inductive Quoting where
  | basic
  | literal
  | basicLines
  | literalLines
deriving DecidableEq

/-- The first form that needs no escapes except for tabs, with the literal forms after the basic
ones of the same shape; with escapes if there is none. -/
def Quoting.ofFeatures (f : TextFeatures) : Quoting :=
  if !f.hasControl && !f.hasBackslash && f.doubleQuoteRun = 0 && !f.hasNewline then basic
  else if !f.hasControl && f.singleQuoteRun = 0 && !f.hasNewline then literal
  else if !f.hasControl && !f.hasBackslash && f.doubleQuoteRun ≤ 2 then basicLines
  else if !f.hasControl && f.singleQuoteRun ≤ 2 then literalLines
  else if f.hasNewline then basicLines
  else basic

def upperHex (n : Nat) : Char :=
  (Nat.digitChar (n % 16)).toUpper

def escapeOf (c : Char) : List Char :=
  match c with
  | '\x08' => ['\\', 'b']
  | '\t' => ['\\', 't']
  | '\n' => ['\\', 'n']
  | '\x0c' => ['\\', 'f']
  | '\r' => ['\\', 'r']
  | '"' => ['\\', '"']
  | '\\' => ['\\', '\\']
  | c =>
    if c.toNat < 32 ∨ c.toNat = 127 then
      ['\\', 'u', '0', '0', upperHex (c.toNat / 16), upperHex c.toNat]
    else [c]

/-- The body of a basic string of several lines: line feeds stand for themselves, and so do the
first two quotes of a run. -/
def escapeLines : Nat → List Char → List Char
  | _, [] => []
  | quotes, c :: cs =>
    if c = '"' then
      if quotes < 2 then c :: escapeLines (quotes + 1) cs else escapeOf c ++ escapeLines 0 cs
    else if c = '\n' then c :: escapeLines 0 cs
    else escapeOf c ++ escapeLines 0 cs

def quotedAs (quoting : Quoting) (cs : List Char) : List Char :=
  let opening (delimiter : List Char) : List Char :=
    if cs.any (· == '\n') then delimiter ++ ['\n'] else delimiter
  match quoting with
  | .basic => '"' :: cs.flatMap escapeOf ++ ['"']
  | .literal => '\'' :: cs ++ ['\'']
  | .basicLines => opening ['"', '"', '"'] ++ escapeLines 0 cs ++ ['"', '"', '"']
  | .literalLines => opening ['\'', '\'', '\''] ++ cs ++ ['\'', '\'', '\'']

def stringText (s : String) : String :=
  String.ofList (quotedAs (.ofFeatures (.of s.toList)) s.toList)

def isBareKey (cs : List Char) : Bool :=
  !cs.isEmpty && cs.all fun c => c.isAlphanum || c == '_' || c == '-'

/-- Keys stay on one line. -/
def keyText (key : String) : String :=
  let cs := key.toList
  let f := TextFeatures.of cs
  let plain := !f.hasControl && !f.hasNewline
  if isBareKey cs then key
  else if plain && f.singleQuoteRun = 0 && (f.hasBackslash || f.doubleQuoteRun ≠ 0) then
    String.ofList (quotedAs .literal cs)
  else String.ofList (quotedAs .basic cs)

def arrayText (items : List String) : String :=
  match items with
  | [] => "[]"
  | [item] => "[" ++ item ++ "]"
  | _ => "[" ++ String.join (items.map fun item => "\n    " ++ item ++ ",") ++ "\n]"

def inlineText (fields : List String) : String :=
  if fields.isEmpty then "\x7b\x7d" else "\x7b " ++ ", ".intercalate fields ++ " \x7d"

/-- Numbers are never written with an exponent. -/
def numberFormat : DecimalFormat :=
  ⟨.all, .away⟩

mutual

/-- A value on the right of an equals sign or inside an array. -/
def inlineValue? : Value → Option String
  | .null => none
  | .bool b => some (if b then "true" else "false")
  | .int n => some (toString n)
  | .real x => some (x.text numberFormat)
  | .str s => some (stringText s)
  | .arr items => (inlineItems? items).map arrayText
  | .obj fields => (inlineFields? fields).map inlineText

def inlineItems? : List Value → Option (List String)
  | [] => some []
  | v :: vs => do
    let text ← inlineValue? v
    let more ← inlineItems? vs
    some (text :: more)

def inlineFields? : List (String × Value) → Option (List String)
  | [] => some []
  | (key, v) :: fields => do
    let text ← inlineValue? v
    let more ← inlineFields? fields
    some ((keyText key ++ " = " ++ text) :: more)

end

def isTable : Value → Bool
  | .obj _ => true
  | _ => false

/-- Whether a value gets headers of its own. -/
def isSection : Value → Bool
  | .obj _ => true
  | .arr items => !items.isEmpty && items.all isTable
  | _ => false

def valueLines? (fields : List (String × Value)) : Option (List String) :=
  inlineFields? (fields.filter fun f => !isSection f.2)

def pathText (path : List String) : String :=
  ".".intercalate (path.map keyText)

def blockText (lines : List String) : String :=
  String.join (lines.map (· ++ "\n"))

/-- The header is left out where only sub-tables follow. -/
def tableBlock? (path : List String) (fields : List (String × Value)) : Option (List String) := do
  let lines ← valueLines? fields
  if lines.isEmpty && !fields.isEmpty then some []
  else some [blockText (("[" ++ pathText path ++ "]") :: lines)]

def elementBlock? (path : List String) (fields : List (String × Value)) : Option (List String) := do
  let lines ← valueLines? fields
  some [blockText (("[[" ++ pathText path ++ "]]") :: lines)]

mutual

/-- The blocks of everything below a table, in the order of its fields. -/
def subBlocks? (path : List String) : List (String × Value) → Option (List String)
  | [] => some []
  | (key, v) :: fields => do
    let here ← valueBlocks? (path ++ [key]) v
    let more ← subBlocks? path fields
    some (here ++ more)

def valueBlocks? (path : List String) : Value → Option (List String)
  | .obj fields => do
    let block ← tableBlock? path fields
    let more ← subBlocks? path fields
    some (block ++ more)
  | .arr items => if isSection (.arr items) then elementBlocks? path items else some []
  | _ => some []

def elementBlocks? (path : List String) : List Value → Option (List String)
  | [] => some []
  | .obj fields :: vs => do
    let block ← elementBlock? path fields
    let below ← subBlocks? path fields
    let more ← elementBlocks? path vs
    some (block ++ below ++ more)
  | _ :: vs => elementBlocks? path vs

end

/-- The document whose root table has the given fields. -/
def render? (fields : List (String × Value)) : Option String := do
  let top ← valueLines? fields
  let blocks ← subBlocks? [] fields
  let topBlock := if top.isEmpty then [] else [blockText top]
  some ("\n".intercalate (topBlock ++ blocks))

end StylesheetBuild.Toml
