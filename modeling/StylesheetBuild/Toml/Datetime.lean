import StylesheetBuild.Toml.Scan
import StylesheetBuild.Value.Basic

/-!
# Dates and times

A date, a time, or both with an optional offset from universal time. Dates have to exist in the
Gregorian calendar and fractions of a second beyond nine digits are cut off. The text of a date and
time is its normal form: a `T` between date and time and no zeros at the end of a fraction.
-/

namespace StylesheetBuild.Toml

structure Date where
  year : Nat
  month : Nat
  day : Nat

structure Time where
  hour : Nat
  minute : Nat
  second : Nat
  /-- The digits of the fraction without trailing zeros. -/
  fraction : List Char

inductive Offset where
  | universal
  | minutes (n : Int)

structure Datetime where
  date : Option Date
  time : Option Time
  offset : Option Offset

def isLeapYear (year : Nat) : Bool :=
  year % 4 == 0 && (year % 100 != 0 || year % 400 == 0)

def daysInMonth (year month : Nat) : Nat :=
  if month = 2 then if isLeapYear year then 29 else 28
  else if month ∈ [4, 6, 9, 11] then 30
  else 31

/-- A number of exactly `count` decimal digits. -/
def fixedNumber (count : Nat) : Scanner Nat := fun cs =>
  let ds := cs.take count
  if ds.length = count ∧ ds.all Char.isDigit then
    some (ds.foldl (fun n c => 10 * n + (c.toNat - 48)) 0, cs.drop count)
  else none

def atMost (limit : Nat) (scan : Scanner Nat) : Scanner Nat := fun cs =>
  (scan cs).filter fun r => r.1 ≤ limit

def date : Scanner Date := fun cs => do
  let (year, rest) ← fixedNumber 4 cs
  let rest ← expect '-' rest
  let (month, rest) ← atMost 12 (fixedNumber 2) rest
  let rest ← expect '-' rest
  let (day, rest) ← atMost (daysInMonth year month) (fixedNumber 2) rest
  if month = 0 ∨ day = 0 then none else some (⟨year, month, day⟩, rest)

def dropTrailingZeros (ds : List Char) : List Char :=
  (ds.reverse.dropWhile (· == '0')).reverse

def secondFraction : Scanner (List Char)
  | '.' :: rest =>
    let ds := rest.takeWhile Char.isDigit
    if ds.isEmpty then none else some (dropTrailingZeros (ds.take 9), rest.drop ds.length)
  | cs => some ([], cs)

def hourMinute : Scanner (Nat × Nat) := fun cs => do
  let (hour, rest) ← atMost 23 (fixedNumber 2) cs
  let rest ← expect ':' rest
  let (minute, rest) ← atMost 59 (fixedNumber 2) rest
  some ((hour, minute), rest)

def time : Scanner Time := fun cs => do
  let ((hour, minute), rest) ← hourMinute cs
  let rest ← expect ':' rest
  let (second, rest) ← atMost 60 (fixedNumber 2) rest
  let (fraction, rest) ← secondFraction rest
  some (⟨hour, minute, second, fraction⟩, rest)

def signedOffset (sign : Int) : Scanner Offset := fun cs => do
  let ((hour, minute), rest) ← hourMinute cs
  some (.minutes (sign * (60 * hour + minute)), rest)

/-- A sign has to be followed by hours and minutes. -/
def offset : Scanner (Option Offset)
  | 'Z' :: rest | 'z' :: rest => some (some .universal, rest)
  | '+' :: rest => (signedOffset 1 rest).map fun r => (some r.1, r.2)
  | '-' :: rest => (signedOffset (-1) rest).map fun r => (some r.1, r.2)
  | cs => some (none, cs)

def timeAfterDate : Scanner (Time × Option Offset)
  | c :: rest =>
    if c = 'T' ∨ c = 't' ∨ c = ' ' then do
      let (t, rest) ← time rest
      let (o, rest) ← offset rest
      some ((t, o), rest)
    else none
  | [] => none

def datetime : Scanner Datetime := fun cs =>
  match date cs with
  | some (d, rest) =>
    match timeAfterDate rest with
    | some ((t, o), rest) => some (⟨some d, some t, o⟩, rest)
    | none => some (⟨some d, none, none⟩, rest)
  | none => (time cs).map fun r => (⟨none, some r.1, none⟩, r.2)

def padded (width n : Nat) : String :=
  let ds := Nat.toDigits 10 n
  String.ofList (List.replicate (width - ds.length) '0' ++ ds)

def Date.text (d : Date) : String :=
  "-".intercalate [padded 4 d.year, padded 2 d.month, padded 2 d.day]

def Time.text (t : Time) : String :=
  ":".intercalate [padded 2 t.hour, padded 2 t.minute, padded 2 t.second] ++
    if t.fraction.isEmpty then "" else "." ++ String.ofList t.fraction

def Offset.text : Offset → String
  | universal => "Z"
  | minutes n =>
    (if n < 0 then "-" else "+") ++ padded 2 (n.natAbs / 60) ++ ":" ++ padded 2 (n.natAbs % 60)

def Datetime.text (dt : Datetime) : String :=
  (dt.date.map Date.text).getD "" ++
    (if dt.date.isSome ∧ dt.time.isSome then "T" else "") ++
    (dt.time.map Time.text).getD "" ++ (dt.offset.map Offset.text).getD ""

/-- The key that marks the value of a date or time. -/
def datetimeKey : String := "$__toml_private_datetime"

def Datetime.toValue (dt : Datetime) : Value :=
  .obj [(datetimeKey, .str dt.text)]

end StylesheetBuild.Toml
