import StylesheetBuild.Scss.Dialect

/-!
# Values

What stands after the colon of a declaration or an assignment: words, commas and, in SCSS, names of
variables. The first error in a value is the one that is reported.
-/

namespace StylesheetBuild.Scss

/-- A part of a value that stands for itself. -/
inductive Token where
  | word (text : String)
  | comma
deriving DecidableEq

inductive Piece where
  | token (token : Token)
  | reference (name : String) (position : Position)
deriving DecidableEq

def isNameChar (c : Char) : Bool :=
  c.isAlphanum || c == '-' || c == '_' || 128 ≤ c.toNat

/-- Hyphens and underscores are the same in names of variables. -/
def variableName (cs : List Char) : String :=
  String.ofList (cs.map fun c => if c = '_' then '-' else c)

def expectedExpression (p : Position) : Refusal :=
  ⟨"Expected expression.", p⟩

def expectedChar (c : Char) (p : Position) : Refusal :=
  ⟨"expected \"" ++ c.toString ++ "\".", p⟩

/-- A word or the name of a variable that is being read, newest character first. -/
structure OpenPiece where
  chars : List Char := []
  quote : Option Char := none
  reference : Option Position := none

namespace OpenPiece

def close? (o : OpenPiece) : Option Piece :=
  match o.reference with
  | some position => some (.reference (variableName o.chars.reverse) position)
  | none => if o.chars.isEmpty then none else some (.token (.word (String.ofList o.chars.reverse)))

end OpenPiece

/-- Pieces found, newest first, and the one being read. -/
structure ValueScan where
  pieces : List Piece := []
  current : OpenPiece := {}

namespace ValueScan

def close (s : ValueScan) : ValueScan :=
  { pieces := s.current.close?.toList ++ s.pieces }

def add (s : ValueScan) (c : Char) : ValueScan :=
  { s with current := { s.current with chars := c :: s.current.chars } }

/-- A name ends at the first character that cannot be in it. -/
def closeNameBefore (s : ValueScan) (c : Char) : ValueScan :=
  if s.current.reference.isSome && !isNameChar c then s.close else s

/-- Strings are written in double quotes. -/
def openQuote (s : ValueScan) (c : Char) : ValueScan :=
  { s with current := { s.current with chars := '"' :: s.current.chars, quote := some c } }

def closeQuote (s : ValueScan) : ValueScan :=
  { s with current := { s.current with chars := '"' :: s.current.chars, quote := none } }

def stepPlain (d : Dialect) (s : ValueScan) (m : Mark) : Except Refusal ValueScan :=
  if m.isBlank then .ok s.close
  else match m.char with
    | ',' =>
      let s := s.close
      .ok { s with pieces := .token .comma :: s.pieces }
    | '$' =>
      if d = .css then .error (noVariables m.position)
      else .ok { s.close with current := { reference := some m.position } }
    | '@' => .error (expectedChar ';' m.position)
    | c => if isQuote c then .ok (s.openQuote c) else .ok (s.add c)

def step (d : Dialect) (s : ValueScan) (m : Mark) : Except Refusal ValueScan :=
  match s.current.quote with
  | some q => .ok (if m.char = q then s.closeQuote else s.add m.char)
  | none => (s.closeNameBefore m.char).stepPlain d m

end ValueScan

def endPosition (text : List Mark) (otherwise : Position) : Position :=
  (text.getLast?.map Mark.position).getD otherwise

def canStartValue (m : Mark) : Bool :=
  m.char != '@'

/-- The pieces of a value. Where there is none, the error is at the last character before it. -/
def readValue (d : Dialect) (colon : Position) (text : List Mark) : Except Refusal (List Piece) :=
  let blanks := text.takeWhile Mark.isBlank
  let value := text.dropWhile Mark.isBlank
  if value.head?.any canStartValue then do
    let scan ← value.foldlM (ValueScan.step d) {}
    pure scan.close.pieces.reverse
  else .error (expectedExpression (endPosition blanks colon))

end StylesheetBuild.Scss
