import StylesheetBuild.Toml.Datetime
import StylesheetBuild.Toml.Number
import StylesheetBuild.Toml.Table

/-!
# Reading a TOML document

The root table of a document as a value, or nothing if the document is malformed. Dates and times
become objects with a single marked field.
-/

namespace StylesheetBuild.Toml

def scalar : Scanner Value := fun cs =>
  match cs with
  | '"' :: _ | '\'' :: _ => (string cs).map fun r => (.str r.1, r.2)
  | 't' :: _ => (dropWord? ['t', 'r', 'u', 'e'] cs).map (.bool true, ·)
  | 'f' :: _ => (dropWord? ['f', 'a', 'l', 's', 'e'] cs).map (.bool false, ·)
  | _ =>
    match datetime cs with
    | some (dt, rest) => some (dt.toValue, rest)
    | none => (decimalFloat cs).or ((specialFloat cs).or (integer cs))

/-- A line `key = value`, with the blanks around both. -/
def assignment (value : Scanner Value) : Scanner Assignment := fun cs => do
  let (key, rest) ← dottedKey cs
  let rest ← expect '=' rest
  let (v, rest) ← value (skipSpaces rest)
  some (⟨key.dropLast, key.getLastD "", v⟩, skipSpaces rest)

/-- Items with commas between them and possibly after the last one, up to the closing bracket. -/
def arrayItems (value : Scanner Value) : Scanner (List Value) := fun cs =>
  let item : Scanner Value := fun cs => do
    let (v, rest) ← value (skipLayout cs)
    let rest := skipLayout rest
    match expect ',' rest with
    | some rest => some (v, rest)
    | none => if rest.head? = some ']' then some (v, rest) else none
  let (vs, rest) := repeatedly item cs
  (expect ']' (skipLayout rest)).map (vs, ·)

/-- Assignments with commas between them, up to the closing brace. -/
def inlineAssignments (value : Scanner Value) : Scanner (List Assignment) := fun cs =>
  match assignment value cs with
  | none => (expect '\x7d' (skipSpaces cs)).map ([], ·)
  | some (a, rest) =>
    let next : Scanner Assignment := fun cs => (expect ',' cs).bind (assignment value)
    let (more, rest) := repeatedly next rest
    (expect '\x7d' rest).map (a :: more, ·)

/-- A value in which arrays and inline tables nest at most `depth` levels deep. -/
def valueWithin : Nat → Scanner Value
  | 0 => scalar
  | depth + 1 => fun cs =>
    match cs with
    | '[' :: rest => (arrayItems (valueWithin depth) rest).map fun r => (.arr r.1, r.2)
    | '\x7b' :: rest => do
      let (as, rest) ← inlineAssignments (valueWithin depth) rest
      let v ← inlineTable? as
      some (v, rest)
    | _ => scalar cs

def value : Scanner Value :=
  valueWithin (nestingLimit - 1)

def assignmentLine : Scanner Assignment := fun cs => do
  let (a, rest) ← assignment value cs
  let rest ← lineEnd? rest
  some (a, rest)

def headerLine : Scanner Header
  | '[' :: '[' :: rest => do
    let (key, rest) ← dottedKey rest
    let rest ← (dropWord? [']', ']'] rest).bind lineEnd?
    some (.element key.dropLast (key.getLastD ""), rest)
  | '[' :: rest => do
    let (key, rest) ← dottedKey rest
    let rest ← (expect ']' rest).bind lineEnd?
    some (.table key.dropLast (key.getLastD ""), rest)
  | _ => none

/-- Drops blank lines and comments, and the blanks that start a line. -/
def skipBlankLines (cs : List Char) : List Char :=
  skipLayout cs

def assignmentLines (cs : List Char) : List Assignment × List Char :=
  repeatedly (fun cs => assignmentLine (skipBlankLines cs)) cs

def sectionLines : Scanner Section := fun cs => do
  let (header, rest) ← headerLine (skipBlankLines cs)
  let (as, rest) := assignmentLines rest
  some (⟨header, as⟩, rest)

def isDocumentEnd (cs : List Char) : Bool :=
  (skipComment (skipBlankLines cs)).isEmpty

def dropByteOrderMark : List Char → List Char
  | '\ufeff' :: rest => rest
  | cs => cs

/-- The root table of a document. -/
def parse? (text : String) : Option Value := do
  let (top, rest) := assignmentLines (dropByteOrderMark text.toList)
  let (sections, rest) := repeatedly sectionLines rest
  if !isDocumentEnd rest then none
  let root ← assignAll [] top
  let root ← sections.foldlM define root
  some (.object (entryValues root))

end StylesheetBuild.Toml
