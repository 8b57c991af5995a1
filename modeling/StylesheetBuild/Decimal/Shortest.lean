import StylesheetBuild.Decimal.Binary64

/-!
# Shortest decimals

The decimal with the fewest digits that reads back as a given number and, among those, the one
nearest to it. Seventeen digits always suffice. A number half way between two such decimals, and the
place of the decimal point, are matters of a `DecimalFormat`.
-/

namespace StylesheetBuild

/-- Which of two decimals a number half way between them becomes. -/
inductive Tie where
  | toEven
  /-- The one farther from zero. -/
  | away
deriving DecidableEq

/-- The places of the point for which a number is written without exponent. -/
inductive PointRange where
  | all
  | between (first last : Int)
deriving DecidableEq

def PointRange.holds : PointRange → Int → Bool
  | all, _ => true
  | between first last, point => first ≤ point && point ≤ last

structure DecimalFormat where
  points : PointRange
  tie : Tie
deriving DecidableEq

namespace Binary64

/-- The decimal `0.d₁d₂… * 10 ^ point`. -/
structure Shortest where
  digits : List Char
  point : Int
deriving DecidableEq

/-- Whether `num / den` is at least `10 ^ e`. -/
def reachesPower (num den : Nat) (e : Int) : Bool :=
  let p := powerRatio 10 e
  den * p.1 ≤ num * p.2

/-- The largest `e` with `10 ^ e ≤ num / den`. -/
def leadingExponent (num den : Nat) : Int :=
  let e : Int := (decimalLength num : Int) - decimalLength den
  if reachesPower num den e then e else e - 1

/-- Whether a number half way between `low` and its successor becomes `low`. -/
def keepsLow (tie : Tie) (low : Nat) : Bool :=
  tie == .toEven && low % 2 == 0

/-- The two neighbours of the number among the multiples of `10 ^ e`, the nearer first. -/
def neighbours (tie : Tie) (num den : Nat) (e : Int) : List Nat :=
  let p := powerRatio 10 e
  let n := num * p.2
  let d := den * p.1
  let low := n / d
  let twice := 2 * (n % d)
  if twice < d ∨ (twice = d ∧ keepsLow tie low) then [low, low + 1] else [low + 1, low]

def ofDigits (n : Nat) (exponent : Int) : Shortest :=
  let digits := Nat.toDigits 10 n
  ⟨(digits.reverse.dropWhile (· == '0')).reverse, exponent + digits.length⟩

/-- The decimal with at most `count` digits that reads back as `x`, if there is one. -/
def withDigits? (tie : Tie) (x : Binary64) (count : Nat) : Option Shortest :=
  let r := x.ratio
  let e := leadingExponent r.1 r.2 - (count - 1 : Nat)
  let readsBack (n : Nat) : Bool := (ofDecimal false n e).magnitude == x.magnitude
  ((neighbours tie r.1 r.2 e).find? readsBack).map (ofDigits · e)

/-- The shortest decimal of the magnitude of a finite number. -/
def shortest (tie : Tie) (x : Binary64) : Shortest :=
  if x.magnitude = 0 then ⟨['0'], 1⟩
  else ((List.range' 1 17).findSome? (withDigits? tie x)).getD ⟨['0'], 1⟩

/-- Zeros fill the places between the digits and the point; a digit stands on either side of it. -/
def positional (s : Shortest) : List Char :=
  if s.point ≤ 0 then
    '0' :: '.' :: List.replicate (-s.point).toNat '0' ++ s.digits
  else
    let rest := s.digits.drop s.point.toNat
    s.digits.take s.point.toNat ++ List.replicate (s.point.toNat - s.digits.length) '0' ++
      '.' :: if rest.isEmpty then ['0'] else rest

/-- One digit before the point, no point when there is only one digit, then the signed exponent. -/
def scientific (s : Shortest) : List Char :=
  let e := s.point - 1
  let tail := 'e' :: (if e < 0 then '-' else '+') :: Nat.toDigits 10 e.natAbs
  match s.digits with
  | [] => tail
  | [d] => d :: tail
  | d :: ds => d :: '.' :: ds ++ tail

def text (format : DecimalFormat) (x : Binary64) : String :=
  let s := shortest format.tie x
  let body := if format.points.holds s.point then positional s else scientific s
  String.ofList (if x.isNegative then '-' :: body else body)

end Binary64

end StylesheetBuild
