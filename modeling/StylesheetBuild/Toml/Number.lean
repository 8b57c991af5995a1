import StylesheetBuild.Toml.Text
import StylesheetBuild.Value.Basic

/-!
# Numbers

Integers of 64 bits in four bases and floating point numbers. An underscore may stand between two
digits. A number too large for a finite float is refused unless it is negative.
-/

namespace StylesheetBuild.Toml

/-- Digits with single underscores between them, the underscores left out. -/
def digits (isDigit : Char → Bool) : Scanner (List Char) := fun cs =>
  match cs with
  | [] => none
  | c :: rest =>
    if isDigit c then
      let more : Scanner Char
        | '_' :: d :: rest => if isDigit d then some (d, rest) else none
        | d :: rest => if isDigit d then some (d, rest) else none
        | [] => none
      let (ds, rest) := repeatedly more rest
      some (c :: ds, rest)
    else none

def ofDigits (base : Nat) (ds : List Char) : Nat :=
  ds.foldl (fun n c => base * n + (hexDigit? c).getD 0) 0

def sign : List Char → Bool × List Char
  | '-' :: rest => (true, rest)
  | '+' :: rest => (false, rest)
  | cs => (false, cs)

/-- Decimal digits without a leading zero, or a single zero. -/
def wholePart : Scanner (List Char)
  | '0' :: rest => some (['0'], rest)
  | cs => digits Char.isDigit cs

def word? (n : Int) : Option Value :=
  if Value.isWord n then some (.int n) else none

def decimalInteger : Scanner Value := fun cs => do
  let (negative, cs) := sign cs
  let (ds, rest) ← wholePart cs
  let n : Int := ofDigits 10 ds
  let v ← word? (if negative then -n else n)
  some (v, rest)

def isDigitOf (base : Nat) (c : Char) : Bool :=
  (hexDigit? c).any (· < base)

def basedInteger (base : Nat) : Scanner Value := fun cs => do
  let (ds, rest) ← digits (isDigitOf base) cs
  let v ← word? (ofDigits base ds)
  some (v, rest)

def integer : Scanner Value
  | '0' :: 'x' :: rest => basedInteger 16 rest
  | '0' :: 'o' :: rest => basedInteger 8 rest
  | '0' :: 'b' :: rest => basedInteger 2 rest
  | cs => decimalInteger cs

/-- The digits after a decimal point, if there is one. -/
def fractionPart : Scanner (List Char)
  | '.' :: rest => digits Char.isDigit rest
  | cs => some ([], cs)

def exponentPart : Scanner Int
  | c :: rest =>
    if c = 'e' ∨ c = 'E' then do
      let (negative, rest) := sign rest
      let (ds, rest) ← digits Char.isDigit rest
      let n : Int := ofDigits 10 ds
      some (if negative then -n else n, rest)
    else some (0, c :: rest)
  | [] => some (0, [])

def isFloatMark (c : Char) : Bool :=
  c == '.' || c == 'e' || c == 'E'

def decimalFloat : Scanner Value := fun cs => do
  let (negative, cs) := sign cs
  let (whole, rest) ← wholePart cs
  if !rest.head?.any isFloatMark then none
  let (fraction, rest) ← fractionPart rest
  let (exponent, rest) ← exponentPart rest
  let x := Binary64.ofDecimal negative (ofDigits 10 (whole ++ fraction)) (exponent - fraction.length)
  if x = .infinity false then none
  some (.real x, rest)

/-- Infinities and what is not a number, which has no sign of its own. -/
def specialFloat : Scanner Value := fun cs =>
  let (negative, cs) := sign cs
  match dropWord? ['i', 'n', 'f'] cs with
  | some rest => some (.real (.infinity negative), rest)
  | none => (dropWord? ['n', 'a', 'n'] cs).map (.real .notANumber, ·)

end StylesheetBuild.Toml
