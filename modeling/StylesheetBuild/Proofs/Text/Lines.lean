import Mathlib.Data.List.TakeWhile
import Mathlib.Tactic.Common
import StylesheetBuild.Text.Lines

/-!
# Lines behind a text

What stands behind a line feed is cut into lines by itself, so a text in front of it moves its lines
down by the number of line feeds and leaves them as they are. The first line is the first of the lines,
and a text in front of the first line feed stands in front of it.
-/

namespace StylesheetBuild.Text

theorem bne_of_not_mem {c : Char} {cs : List Char} (h : c ∉ cs) : ∀ other ∈ cs, (other != c) = true :=
  fun _ hOther => bne_iff_ne.mpr (ne_of_mem_of_not_mem hOther h)

/-- The lines of a text that a line feed is put behind. -/
def endedLines (cs : List Char) : List (List Char) :=
  (cs.splitOn '\n').map dropCarriageReturn

theorem lines_append_lineFeed (cs rest : List Char) :
    lines (cs ++ '\n' :: rest) = endedLines cs ++ lines rest := by
  have hRest := List.splitOn_ne_nil '\n' rest
  obtain ⟨last, hLast⟩ := Option.ne_none_iff_exists'.mp (mt List.getLast?_eq_none_iff.mp hRest)
  simp only [lines, endedLines, List.splitOn_append_cons_self, List.dropLast_append_of_ne_nil hRest,
    List.map_append, List.append_assoc, List.getLastD_eq_getLast?, List.getLast?_append, hLast,
    Option.some_or]

theorem length_endedLines (cs : List Char) : (endedLines cs).length = cs.count '\n' + 1 := by
  rw [endedLines, List.length_map]
  induction cs with
  | nil => rfl
  | cons c cs ih =>
    rw [List.splitOn_cons_eq_if_modifyHead, List.count_cons]
    split
    · rw [List.length_cons, ih]
    · rw [List.length_modifyHead, ih]

theorem splitOn_concat {c : Char} (h : c ≠ '\n') (cs : List Char) :
    ∃ pieces last, (cs ++ [c]).splitOn '\n' = pieces ++ [last ++ [c]] := by
  induction cs with
  | nil => exact ⟨[], [], by simp [List.splitOn_cons_eq_if_modifyHead, h]⟩
  | cons first cs ih =>
    obtain ⟨pieces, last, hSplit⟩ := ih
    rw [List.cons_append, List.splitOn_cons_eq_if_modifyHead, hSplit]
    split
    · exact ⟨[] :: pieces, last, rfl⟩
    · cases pieces with
      | nil => exact ⟨[], first :: last, rfl⟩
      | cons piece pieces => exact ⟨(first :: piece) :: pieces, last, rfl⟩

/-- A line feed behind a text makes no difference to its lines, if the text ends in a character that
is no part of a line end. -/
theorem lines_concat {c : Char} (hFeed : c ≠ '\n') (hReturn : c ≠ '\r') (cs : List Char) :
    lines (cs ++ [c]) = endedLines (cs ++ [c]) := by
  obtain ⟨pieces, last, hSplit⟩ := splitOn_concat hFeed cs
  simp [lines, endedLines, hSplit, dropCarriageReturn, hReturn]

/-! ## First lines -/

theorem headD_lines (cs : List Char) : (lines cs).headD [] = firstLine cs := by
  by_cases hFeed : '\n' ∈ cs
  · obtain ⟨line, rest, rfl, hLine⟩ := List.eq_append_cons_of_mem hFeed
    have hFront := bne_of_not_mem hLine
    rw [lines_append_lineFeed, endedLines, List.splitOn_eq_singleton hLine, firstLine,
      List.dropWhile_append_of_pos hFront, List.takeWhile_append_of_pos hFront]
    simp
  · rw [lines, List.splitOn_eq_singleton hFeed, firstLine,
      List.dropWhile_eq_nil_iff.mpr (bne_of_not_mem hFeed)]
    cases cs <;> rfl

/-- A text in front of the first line feed stands in front of the first line. -/
theorem firstLine_append_front {front : List Char} (hFeed : '\n' ∉ front)
    (hReturn : front.getLast? ≠ some '\r') (rest : List Char) :
    firstLine (front ++ rest) = front ++ firstLine rest := by
  have hFront := bne_of_not_mem hFeed
  rw [firstLine, firstLine, List.dropWhile_append_of_pos hFront, List.takeWhile_append_of_pos hFront]
  cases rest.dropWhile (· != '\n') with
  | nil => rfl
  | cons feed more =>
    change dropCarriageReturn _ = front ++ dropCarriageReturn _
    rw [dropCarriageReturn, dropCarriageReturn, List.getLast?_append]
    by_cases hNone : rest.takeWhile (· != '\n') = []
    · simp [hNone, hReturn]
    · rw [List.getLast?_eq_some_getLast hNone, Option.some_or, List.dropLast_append_of_ne_nil hNone]
      split <;> rfl

theorem firstLine_append {line rest : List Char} (hFeed : '\n' ∉ line)
    (hReturn : line.getLast? ≠ some '\r') (hRest : rest = [] ∨ rest.head? = some '\n') :
    firstLine (line ++ rest) = line := by
  have hNone : firstLine rest = [] := by
    rcases hRest with rfl | hHead
    · rfl
    · obtain ⟨more, rfl⟩ := List.head?_eq_some_iff.mp hHead
      simp [firstLine, dropCarriageReturn]
  rw [firstLine_append_front hFeed hReturn, hNone, List.append_nil]

end StylesheetBuild.Text
