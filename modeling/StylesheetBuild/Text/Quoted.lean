import StylesheetBuild.Text.Printable

/-!
# Quoted text

Text between double quotes, as error messages show paths and names. A character that would not show
by itself is written as an escape; a single quote stays as it is.
-/

namespace StylesheetBuild.Text

def codePointEscape (c : Char) : List Char :=
  ['\\', 'u', '\x7b'] ++ Nat.toDigits 16 c.toNat ++ ['\x7d']

def quoteChar (c : Char) : List Char :=
  match c with
  | '\x00' => ['\\', '0']
  | '\t' => ['\\', 't']
  | '\n' => ['\\', 'n']
  | '\r' => ['\\', 'r']
  | '"' => ['\\', '"']
  | '\\' => ['\\', '\\']
  | c =>
    if c.toNat < 127 ∧ 32 ≤ c.toNat then [c]
    else if isExtending c || !isPrintable c then codePointEscape c
    else [c]

def quoted (s : String) : String :=
  String.ofList ('"' :: s.toList.flatMap quoteChar ++ ['"'])

/-- A list of quoted texts. -/
def quotedList (ss : List String) : String :=
  "[" ++ ", ".intercalate (ss.map quoted) ++ "]"

end StylesheetBuild.Text
