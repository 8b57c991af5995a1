import Mathlib.Tactic.Common
import Std.Data.String.ToNat
import StylesheetBuild.Diagnostic.Basic

/-!
# Ranges of diagnostics

Only an error with a position in a named file has a range of its own, and that range lies on one line.
It starts at the position, as far as words of 32 bits can hold it, and ends at the column that stands
for the end of a line. The renderer is bound by neither: past that column the range runs backwards,
and a position at the last word cannot be counted from one any more.
-/

namespace StylesheetBuild

/-- Line and column that an error reports for a file that it names. -/
def CompileError.position? : CompileError → Option (Nat × Nat)
  | render _ (some line) (some column) (some _) => some (line, column)
  | _ => none

namespace Range

/-- The start does not come after the end, in the order of lines and then of columns. -/
def WellFormed (r : Range) : Prop :=
  r.startLine < r.endLine ∨ r.startLine = r.endLine ∧ r.startColumn ≤ r.endColumn

instance (r : Range) : Decidable r.WellFormed :=
  inferInstanceAs (Decidable (_ ∨ _))

theorem wellFormed_iff_of_line_eq {r : Range} (h : r.startLine = r.endLine) :
    r.WellFormed ↔ r.startColumn ≤ r.endColumn := by
  rw [WellFormed, h, eq_self, true_and, or_iff_right (UInt32.lt_irrefl r.endLine)]

end Range

namespace Diagnostic

theorem toNat_word_min (n : Nat) : (word n).toNat = min n (UInt32.size - 1) := by
  by_cases h : n < UInt32.size
  · rw [word, UInt32.toNat_ofNatClamp_of_lt h]
    omega
  · rw [word, UInt32.toNat_ofNatClamp_of_le (by omega)]
    omega

theorem toNat_word {n : Nat} (h : n < UInt32.size) : (word n).toNat = n := by
  rw [toNat_word_min]
  omega

theorem word_le_endOfLine_iff (n : Nat) : word n ≤ endOfLine ↔ n ≤ endOfLine.toNat := by
  have hEnd : endOfLine.toNat < UInt32.size - 1 := by decide
  rw [UInt32.le_iff_toNat_le, toNat_word_min]
  omega

theorem range_ofError_cases [WorkingDirectory] (error : CompileError) (document : Path) :
    (∃ line column, error.position? = some (line, column) ∧
      (ofError error document).range = .restOfLine (word (line - 1)) (word column)) ∨
    error.position? = none ∧ ((ofError error document).range = .firstLine ∨
      (ofError error document).range = .documentStart) := by
  cases error with
  | filesystem path cause => exact .inr ⟨rfl, .inl rfl⟩
  | unknown message => exact .inr ⟨rfl, .inl rfl⟩
  | render message line column filename =>
    -- Without a file name the position is not even read, and half a position counts for nothing.
    cases filename with
    | none => exact .inr ⟨by cases line <;> cases column <;> rfl, .inr rfl⟩
    | some filename =>
      cases line with
      | none => exact .inr ⟨rfl, .inl rfl⟩
      | some line =>
        cases column with
        | none => exact .inr ⟨rfl, .inl rfl⟩
        | some column => exact .inl ⟨line, column, rfl, rfl⟩

/-- Every range lies on one line, and runs backwards just where an error lies past the column that
stands for the end of its line. -/
theorem wellFormed_range_iff [WorkingDirectory] (error : CompileError) (document : Path) :
    (ofError error document).range.startLine = (ofError error document).range.endLine ∧
      ((ofError error document).range.WellFormed ↔
        ∀ position ∈ error.position?, position.2 ≤ endOfLine.toNat) := by
  rcases range_ofError_cases error document with ⟨line, column, hSome, hRange⟩ | ⟨hNone, hRange⟩
  · rw [hRange, hSome]
    refine ⟨rfl, ?_⟩
    rw [Range.wellFormed_iff_of_line_eq rfl]
    simpa [Range.restOfLine] using word_le_endOfLine_iff column
  · rw [hNone]
    have hFree : ∀ position ∈ (none : Option (Nat × Nat)), position.2 ≤ endOfLine.toNat := by simp
    rcases hRange with hRange | hRange
    · rw [hRange]
      exact ⟨rfl, iff_of_true (by decide) hFree⟩
    · rw [hRange]
      exact ⟨rfl, iff_of_true (by decide) hFree⟩

section

attribute [local instance] WorkingDirectory.root

/-- Behind column 4096 of a line the end of the range comes before its start. -/
theorem not_wellFormed_range_of_long_line :
    let error : CompileError :=
      .render "Unrecognised input" (some 1) (some 5000) (some "main.less")
    let d := ofError error ⟨"/proj/less/main.less"⟩
    d.range = ⟨0, 5000, 0, 4096⟩ ∧ ¬d.range.WellFormed := by
  decide

end

/-! ## Positions as they are printed -/

/-- Counting the start from one leaves the words of 32 bits neither for the line nor for the column. -/
def CountsFromOne (d : Diagnostic) : Prop :=
  d.range.startLine.toNat + 1 < UInt32.size ∧ d.range.startColumn.toNat + 1 < UInt32.size

instance (d : Diagnostic) : Decidable d.CountsFromOne :=
  inferInstanceAs (Decidable (_ ∧ _))

/-- The text of a diagnostic at a line and a column that are counted from one. -/
def textAt (file : Path) (line column : Nat) (message : String) : String :=
  file.text ++ ":" ++ toString line ++ ":" ++ toString column ++ ": error: " ++ message

theorem countsFromOne_ofError_iff [WorkingDirectory] (error : CompileError) (document : Path) :
    (ofError error document).CountsFromOne ↔
      ∀ position ∈ error.position?, position.1 < UInt32.size ∧ position.2 + 1 < UInt32.size := by
  rcases range_ofError_cases error document with ⟨line, column, hSome, hRange⟩ | ⟨hNone, hRange⟩
  · have hSize : 1 < UInt32.size := by decide
    rw [CountsFromOne, hRange, hSome, Range.restOfLine, toNat_word_min, toNat_word_min]
    simp only [Option.mem_some_iff, forall_eq']
    omega
  · rw [CountsFromOne, hNone]
    rcases hRange with hRange | hRange <;> rw [hRange] <;> decide

theorem toNat_add_one_iff (w : UInt32) : (w + 1).toNat = w.toNat + 1 ↔ w.toNat + 1 < UInt32.size := by
  constructor
  · intro h
    rw [← h]
    exact UInt32.toNat_lt_size (w + 1)
  · intro h
    rw [UInt32.toNat_add]
    exact Nat.mod_eq_of_lt h

theorem textAt_column_inj {file : Path} {line column other : Nat} {message : String} :
    textAt file line column message = textAt file line other message ↔ column = other := by
  rw [textAt, textAt, String.append_left_inj, String.append_left_inj, String.append_right_inj,
    Nat.toString_eq_repr, Nat.toString_eq_repr, Nat.repr_inj]

/-- A diagnostic can be counted from one unless its line or its column has been clamped, or its column
is the last word. A position in a named file is printed as it is reported, except for that column. -/
theorem printed_position [WorkingDirectory] (document : Path) :
    (∀ error, (ofError error document).CountsFromOne ↔
      ∀ position ∈ error.position?, position.1 < UInt32.size ∧ position.2 + 1 < UInt32.size) ∧
    ∀ message line column filename, 1 ≤ line → line < UInt32.size → column < UInt32.size →
      ((ofError (.render message (some line) (some column) (some filename)) document).text =
          textAt (namedFile filename document) line (column + 1) message ↔
        column + 1 < UInt32.size) := by
  refine ⟨fun error => countsFromOne_ofError_iff error document, ?_⟩
  intro message line column filename hFirst hLine hColumn
  -- Only the column can be lost: the line is lowered by one before it is counted from one again.
  have hStartLine : (word (line - 1)).toNat = line - 1 := toNat_word (by omega)
  have hStartColumn : (word column).toNat = column := toNat_word hColumn
  have hPrintedLine : (word (line - 1) + 1).toNat = line := by
    rw [(toNat_add_one_iff _).mpr (by omega), hStartLine]
    omega
  have hText : (ofError (.render message (some line) (some column) (some filename)) document).text =
      textAt (namedFile filename document) line (word column + 1).toNat message := by
    conv_rhs => rw [← hPrintedLine]
    rfl
  have hPrintedColumn := toNat_add_one_iff (word column)
  rw [hStartColumn] at hPrintedColumn
  rw [hText, textAt_column_inj, hPrintedColumn]

section

attribute [local instance] WorkingDirectory.root

theorem printed_position_last_word :
    let document : Path := ⟨"/proj/less/main.less"⟩
    let error : CompileError :=
      .render "m" (some 4294967295) (some 4294967294) (some "../lib/_vars.less")
    1 ≤ 4294967295 ∧ 4294967295 < UInt32.size ∧ 4294967294 < UInt32.size ∧
      (ofError error document).CountsFromOne ∧
      (ofError error document).text =
        textAt ⟨"/proj/less/../lib/_vars.less"⟩ 4294967295 4294967295 "m" := by
  intro document error
  have hFirst : 1 ≤ 4294967295 := by decide
  have hLine : 4294967295 < UInt32.size := by decide
  have hColumn : 4294967294 < UInt32.size := by decide
  have hFile : namedFile "../lib/_vars.less" document = ⟨"/proj/less/../lib/_vars.less"⟩ := by
    decide +kernel
  obtain ⟨hCounts, hText⟩ := printed_position document
  refine ⟨hFirst, hLine, hColumn, (hCounts error).mpr (by decide), ?_⟩
  rw [← hFile]
  exact (hText _ _ _ _ hFirst hLine hColumn).mpr (by decide)

/-- A line past the last word is clamped to it, and the last column is not printed as reported. -/
theorem not_countsFromOne_past_last_word :
    let document : Path := ⟨"/proj/less/main.less"⟩
    let late := ofError (.render "m" (some 4294967296) (some 0) (some "main.less")) document
    let wide := ofError (.render "m" (some 2) (some 4294967295) (some "main.less")) document
    late.range = ⟨4294967295, 0, 4294967295, 4096⟩ ∧ ¬late.CountsFromOne ∧
      wide.range = ⟨1, 4294967295, 1, 4096⟩ ∧ ¬wide.CountsFromOne ∧
      wide.text ≠ textAt document 2 4294967296 "m" := by
  decide +kernel

end

end Diagnostic

end StylesheetBuild
