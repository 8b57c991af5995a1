import Mathlib.Data.List.Infix
import Mathlib.Tactic.Common

/-!
# Occurrences in a text

Where a pattern occurs first. An occurrence put behind a text is the first one if none lies in the
text, nor starts in it and ends in the occurrence that has been put there.
-/

namespace StylesheetBuild.Text

/-- The pattern occurs at `position` and nowhere from `start` up to there. -/
structure IsFirstFrom (pattern : List Char) (start : Nat) (cs : List Char) (position : Nat) : Prop where
  start_le : start ≤ position
  here : pattern <+: cs.drop position
  notBefore : ∀ other, start ≤ other → other < position → ¬pattern <+: cs.drop other

theorem isFirstFrom_append {pattern inside : List Char} (front : List Char)
    (h : ¬pattern <:+: inside ++ pattern.dropLast) (rest : List Char) :
    IsFirstFrom pattern front.length (front ++ (inside ++ (pattern ++ rest)))
      (front.length + inside.length) where
  start_le := Nat.le_add_right _ _
  here := by
    rw [← List.append_assoc, List.drop_append_of_le_length (by simp)]
    simp
  notBefore other hStart hOther hHere := by
    obtain ⟨skipped, rfl⟩ := Nat.exists_eq_add_of_le hStart
    have hSkipped : skipped < inside.length := by omega
    rw [List.drop_length_add_append, List.drop_append_of_le_length (by omega)] at hHere
    -- An earlier occurrence ends before the last character of the one that has been put there.
    have hShort : pattern <+: (inside ++ pattern.dropLast).drop skipped := by
      apply List.prefix_of_prefix_length_le hHere
      · rw [List.drop_append_of_le_length (by omega), List.prefix_append_right_inj]
        exact (List.dropLast_prefix pattern).trans (List.prefix_append pattern rest)
      · simp only [List.length_drop, List.length_append, List.length_dropLast]
        omega
    exact h (hShort.isInfix.trans (List.drop_suffix skipped _).isInfix)

/-- A character that the pattern does not hold keeps what is in front of it apart from the rest. -/
theorem infix_append_cons_iff {pattern : List Char} {c : Char} (h : c ∉ pattern)
    (before after : List Char) :
    pattern <:+: before ++ c :: after ↔ pattern <:+: before ∨ pattern <:+: after := by
  constructor
  · intro hInfix
    rcases List.infix_append_iff.mp hInfix with hBefore | hRest | ⟨start, stop, rfl, hStart, hStop⟩
    · exact .inl hBefore
    · rcases List.infix_cons_iff.mp hRest with hHere | hAfter
      · cases pattern with
        | nil => exact .inl List.nil_infix
        | cons first pattern =>
          rw [List.cons_prefix_cons] at hHere
          simp [hHere.1] at h
      · exact .inr hAfter
    · cases stop with
      | nil => exact .inl (by simpa using hStart.isInfix)
      | cons first stop =>
        rw [List.cons_prefix_cons] at hStop
        simp [hStop.1] at h
  · rintro (hBefore | hAfter)
    · exact hBefore.trans (List.prefix_append before _).isInfix
    · exact hAfter.trans ((List.suffix_cons c after).trans (List.suffix_append before _)).isInfix

end StylesheetBuild.Text
