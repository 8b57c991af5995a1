import StylesheetBuild.Directive.Entries
import StylesheetBuild.Options.Codec
import StylesheetBuild.Text.Lines

/-!
# Directives on the first line

A document overrides its options with a line comment of `key: value` entries on its first line.
`true` and `false` are flags, integers of 64 bits are numbers, and everything else is text, from
which one pair of enclosing quotes is removed. Entries without a colon or without a key are no
directives, and a directive that does not fit the option it names is skipped.
-/

namespace StylesheetBuild

inductive DirectiveValue where
  | flag (on : Bool)
  | number (n : Int)
  | text (s : String)
deriving DecidableEq

structure Directive where
  key : String
  value : DirectiveValue
deriving DecidableEq

namespace DirectiveValue

def toValue : DirectiveValue → Value
  | flag on => .bool on
  | number n => .int n
  | text s => .str s

def digitsValue (digits : List Char) : Nat :=
  digits.foldl (fun n c => 10 * n + (c.toNat - '0'.toNat)) 0

def unsigned? (digits : List Char) : Option Nat :=
  if digits.isEmpty || digits.any (!·.isDigit) then none else some (digitsValue digits)

/-- Decimal digits after an optional sign; leading zeros count for nothing. -/
def integer? : List Char → Option Int
  | '-' :: digits => (unsigned? digits).map fun n => -(n : Int)
  | '+' :: digits => (unsigned? digits).map Int.ofNat
  | digits => (unsigned? digits).map Int.ofNat

/-- The text between two quotes of one kind. -/
def unquoted? : List Char → Option (List Char)
  | q :: rest => if Directive.isQuote q ∧ rest.getLast? = some q then some rest.dropLast else none
  | [] => none

def ofText (raw : List Char) : DirectiveValue :=
  if raw = "true".toList then flag true
  else if raw = "false".toList then flag false
  else match (integer? raw).filter Value.isWord with
    | some n => number n
    | none => text (String.ofList ((unquoted? raw).getD raw))

end DirectiveValue

namespace Directive

/-- The text of the comment that starts the first line, without the blanks around it. -/
def line? (content : List Char) : Option (List Char) :=
  match Text.trimStart (Text.firstLine content) with
  | '/' :: '/' :: comment => some (Text.trim comment)
  | _ => none

def optionKey (key : String) : String :=
  if key = "out" then "outputPath" else key

def ofEntry? (entry : List Char) : Option Directive :=
  match entry.dropWhile (· != ':') with
  | [] => none
  | _ :: raw =>
    let key := Text.trim (entry.takeWhile (· != ':'))
    if key.isEmpty then none
    else some ⟨optionKey (String.ofList key), .ofText (Text.trim raw)⟩

def ofContent (content : String) : List Directive :=
  match line? content.toList with
  | none => []
  | some line => (entries line).filterMap ofEntry?

/-- The layer that sets one key, unless the value does not fit that option. -/
def layer? (d : Directive) : Option Options :=
  Options.ofFields? [(d.key, d.value.toValue)]

end Directive

/-- Later layers win over earlier ones. -/
def Options.stack (layers : List Options) : Options :=
  layers.foldl Options.merge Options.empty

def Options.ofDirectives (directives : List Directive) : Options :=
  stack (directives.filterMap Directive.layer?)

/-- The layer of options that the first line of a document sets. -/
def Options.ofContent (content : String) : Options :=
  ofDirectives (Directive.ofContent content)

/-- The defaults under the options of the document's first line. -/
def Options.withDirectives (defaults : Options) (content : String) : Options :=
  defaults.merge (ofContent content)

end StylesheetBuild
