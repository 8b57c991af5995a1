/-!
# Binary floating point numbers

A number is its 64 bits, so two numbers are equal exactly when they are the same number with the
same sign of zero. Reading a decimal rounds its exact value to the nearest representable number,
and a tie goes to the even significand.
-/

namespace StylesheetBuild

structure Binary64 where
  bits : UInt64
deriving DecidableEq, Inhabited

namespace Binary64

/-- The bit that stands for the sign. -/
def signBit : Nat := 0x8000000000000000

/-- The lowest bit of the exponent, which a normal number's significand has too. -/
def unitBit : Nat := 0x10000000000000

def isNegative (x : Binary64) : Bool :=
  x.bits >>> 63 == 1

/-- The bits without the sign. -/
def magnitude (x : Binary64) : Nat :=
  x.bits.toNat % signBit

/-- The magnitude of infinity; larger ones are not numbers. -/
def infinityMagnitude : Nat :=
  2047 * unitBit

def isFinite (x : Binary64) : Bool :=
  x.magnitude < infinityMagnitude

def ofMagnitude (negative : Bool) (magnitude : Nat) : Binary64 :=
  ⟨UInt64.ofNat (if negative then signBit + magnitude else magnitude)⟩

def infinity (negative : Bool) : Binary64 :=
  ofMagnitude negative infinityMagnitude

def notANumber : Binary64 :=
  ofMagnitude false (infinityMagnitude + unitBit / 2)

/-- A finite number is `significand * 2 ^ exponent` up to its sign. -/
def exponent (x : Binary64) : Int :=
  max 1 (x.magnitude / unitBit : Nat) - 1075

def significand (x : Binary64) : Nat :=
  if x.magnitude < unitBit then x.magnitude else x.magnitude % unitBit + unitBit

/-- The power `base ^ e` as a numerator and a denominator. -/
def powerRatio (base : Nat) (e : Int) : Nat × Nat :=
  (base.pow e.toNat, base.pow (-e).toNat)

/-- The exact magnitude of a finite number as a ratio. -/
def ratio (x : Binary64) : Nat × Nat :=
  let p := powerRatio 2 x.exponent
  (x.significand * p.1, p.2)

/-- The integer nearest to a quotient; a half goes to the even neighbour. -/
def roundDiv (num den : Nat) : Nat :=
  let q := num / den
  let twice := 2 * (num % den)
  if twice < den then q else if den < twice then q + 1 else q + q % 2

/-- The magnitude of the number nearest to a positive ratio. -/
def nearestMagnitude (num den : Nat) : Nat :=
  let low : Int := (num.log2 : Int) - den.log2 - 53
  let scaled (e : Int) : Nat × Nat :=
    let p := powerRatio 2 e
    (num * p.2, den * p.1)
  let fits := (scaled low).1 < 2 * unitBit * (scaled low).2
  let e := max (-1074) (if fits then low else low + 1)
  min infinityMagnitude ((e + 1074).toNat * unitBit + roundDiv (scaled e).1 (scaled e).2)

def decimalLength (n : Nat) : Nat :=
  (Nat.toDigits 10 n).length

/-- The number nearest to `mantissa * 10 ^ exponent`. Decimals far outside the range are settled by
their length, without computing the power. -/
def ofDecimal (negative : Bool) (mantissa : Nat) (exponent : Int) : Binary64 :=
  let length := exponent + decimalLength mantissa
  if mantissa = 0 ∨ length < -330 then ofMagnitude negative 0
  else if 320 < length then infinity negative
  else
    let p := powerRatio 10 exponent
    ofMagnitude negative (nearestMagnitude (mantissa * p.1) p.2)

end Binary64

end StylesheetBuild
