import StylesheetBuild.Decimal.Shortest
import StylesheetBuild.Value.Basic

/-!
# JSON text of values

Two layouts: `compact`, without any white space, and `pretty`, with one item per line and two
spaces per level. Both keep the order of the fields. Characters outside ASCII stand for themselves.
-/

namespace StylesheetBuild.Value

def hexDigit (n : Nat) : Char :=
  Nat.digitChar (n % 16)

def escapeChar (c : Char) : List Char :=
  match c with
  | '"' => ['\\', '"']
  | '\\' => ['\\', '\\']
  | '\n' => ['\\', 'n']
  | '\r' => ['\\', 'r']
  | '\t' => ['\\', 't']
  | '\x08' => ['\\', 'b']
  | '\x0c' => ['\\', 'f']
  | c => if c.toNat < 32 then ['\\', 'u', '0', '0', hexDigit (c.toNat / 16), hexDigit c.toNat]
    else [c]

def jsonString (s : String) : String :=
  String.ofList ('"' :: s.toList.flatMap escapeChar ++ ['"'])

/-- Up to sixteen digits before the point and up to four zeros after it are written out. -/
def numberFormat : DecimalFormat :=
  ⟨.between (-4) 16, .toEven⟩

def scalarText : Value → String
  | null => "null"
  | bool b => if b then "true" else "false"
  | int n => toString n
  | real x => x.text numberFormat
  | str s => jsonString s
  | arr _ => "[]"
  | obj _ => "\x7b\x7d"

mutual

def compact : Value → String
  | arr items => "[" ++ ",".intercalate (compactItems items) ++ "]"
  | obj fields => "\x7b" ++ ",".intercalate (compactFields fields) ++ "\x7d"
  | v => v.scalarText

def compactItems : List Value → List String
  | [] => []
  | v :: vs => v.compact :: compactItems vs

def compactFields : List (String × Value) → List String
  | [] => []
  | (k, v) :: fs => (jsonString k ++ ":" ++ v.compact) :: compactFields fs

end

def indentation (level : Nat) : String :=
  "\n" ++ String.ofList (List.replicate (2 * level) ' ')

/-- Items on lines of their own between brackets; nothing between the brackets if there are none. -/
def block (openBracket closeBracket : String) (level : Nat) (items : List String) : String :=
  if items.isEmpty then openBracket ++ closeBracket
  else openBracket ++ ",".intercalate (items.map (indentation (level + 1) ++ ·)) ++
    indentation level ++ closeBracket

mutual

def prettyAt (level : Nat) : Value → String
  | arr items => block "[" "]" level (prettyItems (level + 1) items)
  | obj fields => block "\x7b" "\x7d" level (prettyFields (level + 1) fields)
  | v => v.scalarText

def prettyItems (level : Nat) : List Value → List String
  | [] => []
  | v :: vs => v.prettyAt level :: prettyItems level vs

def prettyFields (level : Nat) : List (String × Value) → List String
  | [] => []
  | (k, v) :: fs => (jsonString k ++ ": " ++ v.prettyAt level) :: prettyFields level fs

end

def pretty (v : Value) : String :=
  v.prettyAt 0

end StylesheetBuild.Value
