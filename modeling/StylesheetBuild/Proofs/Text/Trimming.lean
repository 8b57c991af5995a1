import Mathlib.Data.List.TakeWhile
import Mathlib.Tactic.Common
import StylesheetBuild.Text.Blank

/-!
# Trimmed texts

Trimming leaves a text without a blank at either end, and leaves such a text alone. It acts on both
sides of a letter apart.
-/

namespace StylesheetBuild.Text

theorem trimStart_head? (cs : List Char) : ∀ c ∈ (trimStart cs).head?, isBlank c = false := by
  intro c hc
  have hFirst := List.head?_dropWhile_not isBlank cs
  rw [trimStart] at hc
  rw [Option.mem_def.mp hc] at hFirst
  simpa using hFirst

theorem trimStart_subset (cs : List Char) : trimStart cs ⊆ cs :=
  (List.dropWhile_suffix isBlank).subset

theorem trimEnd_isPrefix (cs : List Char) : trimEnd cs <+: cs := by
  rw [trimEnd, ← List.reverse_suffix, List.reverse_reverse]
  exact List.dropWhile_suffix isBlank

theorem trim_head? (cs : List Char) : ∀ c ∈ (trim cs).head?, isBlank c = false := by
  intro c hc
  obtain ⟨more, hMore⟩ := trimEnd_isPrefix (trimStart cs)
  apply trimStart_head? cs
  rw [← hMore, ← trim, List.head?_append, Option.mem_def.mp hc]
  rfl

theorem trim_getLast? (cs : List Char) : ∀ c ∈ (trim cs).getLast?, isBlank c = false := by
  intro c hc
  rw [trim, trimEnd, List.getLast?_reverse] at hc
  exact trimStart_head? (trimStart cs).reverse c hc

theorem trimStart_eq_self {cs : List Char} (h : ∀ c ∈ cs.head?, isBlank c = false) :
    trimStart cs = cs := by
  cases cs with
  | nil => rfl
  | cons c cs => rw [trimStart, List.dropWhile_cons_of_neg (by simp [h c rfl])]

theorem trim_eq_self {cs : List Char} (hFirst : ∀ c ∈ cs.head?, isBlank c = false)
    (hLast : ∀ c ∈ cs.getLast?, isBlank c = false) : trim cs = cs := by
  have hReversed : trimStart cs.reverse = cs.reverse :=
    trimStart_eq_self (by rwa [List.head?_reverse])
  rw [trim, trimStart_eq_self hFirst, trimEnd, ← trimStart, hReversed, List.reverse_reverse]

theorem trim_cons_of_isBlank {c : Char} (h : isBlank c = true) (cs : List Char) :
    trim (c :: cs) = trim cs := by
  rw [trim, trim, trimStart, trimStart, List.dropWhile_cons_of_pos h]

section

variable {c : Char} (h : isBlank c = false)
include h

theorem trimStart_append_cons (before after : List Char) :
    trimStart (before ++ c :: after) = trimStart before ++ c :: after := by
  rw [trimStart, List.dropWhile_append, ← trimStart]
  split
  · rename_i hBlank
    rw [List.isEmpty_iff.mp hBlank, List.dropWhile_cons_of_neg (by simp [h]), List.nil_append]
  · rfl

theorem trimEnd_append_cons (before after : List Char) :
    trimEnd (before ++ c :: after) = before ++ c :: trimEnd after := by
  have hReversed : (before ++ c :: after).reverse = after.reverse ++ c :: before.reverse := by simp
  rw [trimEnd, hReversed, ← trimStart, trimStart_append_cons h, List.reverse_append, List.reverse_cons,
    List.reverse_reverse, List.append_assoc]
  rfl

theorem trim_append_cons (before after : List Char) :
    trim (before ++ c :: after) = trimStart before ++ c :: trimEnd after := by
  rw [trim, trimStart_append_cons h, trimEnd_append_cons h]

end

theorem trim_append_of_isBlank {blanks : List Char} (h : ∀ c ∈ blanks, isBlank c = true)
    (cs : List Char) : trim (blanks ++ cs) = trim cs := by
  rw [trim, trim, trimStart, trimStart, List.dropWhile_append_of_pos h]

theorem trim_append_blanks {blanks : List Char} (h : ∀ c ∈ blanks, isBlank c = true)
    (cs : List Char) : trim (cs ++ blanks) = trim cs := by
  rw [trim, trim, trimStart, trimStart, List.dropWhile_append]
  split
  · rename_i hAll
    rw [List.isEmpty_iff.mp hAll, List.dropWhile_eq_nil_iff.mpr h]
  · have hReversed : ∀ c ∈ blanks.reverse, isBlank c = true := fun c hc => h c (List.mem_reverse.mp hc)
    rw [trimEnd, trimEnd, List.reverse_append, List.dropWhile_append_of_pos hReversed]

/-- What trimming the end leaves in front of the trimmed text is blank. -/
theorem exists_trimEnd_eq (cs : List Char) :
    ∃ blanks, (∀ c ∈ blanks, isBlank c = true) ∧ trimEnd cs = blanks ++ trim cs := by
  have hWhole := List.takeWhile_append_dropWhile (p := isBlank) (l := cs)
  rw [← trimStart] at hWhole
  have hFront : ∀ c ∈ cs.takeWhile isBlank, isBlank c = true := 
    List.all_eq_true.mp List.all_takeWhile
  cases hStart : trimStart cs with
  | nil =>
    rw [hStart, List.append_nil] at hWhole
    refine ⟨trimEnd cs, fun c hc => hFront c ?_, ?_⟩
    · rw [hWhole]
      exact (trimEnd_isPrefix cs).subset hc
    · rw [trim, hStart]
      exact (List.append_nil _).symm
  | cons first rest =>
    have hFirst : isBlank first = false := trimStart_head? cs first (by simp [hStart])
    refine ⟨cs.takeWhile isBlank, hFront, ?_⟩
    rw [trim, hStart, ← List.nil_append (first :: rest), trimEnd_append_cons hFirst, List.nil_append,
      ← trimEnd_append_cons hFirst, ← hStart, hWhole]

/-- Neither end is blank, and there are ends. -/
structure IsTight (cs : List Char) : Prop where
  ne_nil : cs ≠ []
  first : ∀ c ∈ cs.head?, isBlank c = false
  last : ∀ c ∈ cs.getLast?, isBlank c = false

theorem IsTight.trim_eq {cs : List Char} (h : IsTight cs) : trim cs = cs :=
  trim_eq_self h.first h.last

theorem isTight_of_trim_eq {cs : List Char} (hTrim : trim cs = cs) (hSome : cs ≠ []) : IsTight cs where
  ne_nil := hSome
  first := by
    rw [← hTrim]
    exact trim_head? cs
  last := by
    rw [← hTrim]
    exact trim_getLast? cs

theorem isTight_of_not_isBlank {cs : List Char} (hSome : cs ≠ [])
    (h : ∀ c ∈ cs, isBlank c = false) : IsTight cs where
  ne_nil := hSome
  first c hc := h c (List.mem_of_mem_head? hc)
  last c hc := h c (List.mem_of_getLast? hc)

theorem IsTight.append {before after : List Char} (hBefore : IsTight before)
    (hAfter : IsTight after) (between : List Char) : IsTight (before ++ (between ++ after)) where
  ne_nil := by simp [hBefore.ne_nil]
  first := by
    intro c hc
    obtain ⟨first, rest, rfl⟩ := List.exists_cons_of_ne_nil hBefore.ne_nil
    exact hBefore.first c hc
  last := by
    intro c hc
    apply hAfter.last
    rw [← List.append_assoc, List.getLast?_append, List.getLast?_eq_some_getLast hAfter.ne_nil] at hc
    rw [List.getLast?_eq_some_getLast hAfter.ne_nil]
    exact hc

theorem IsTight.intercalate {first : List Char} {others : List (List Char)} (hFirst : IsTight first)
    (hOthers : ∀ cs ∈ others, IsTight cs) (between : List Char) :
    IsTight (between.intercalate (first :: others)) := by
  induction others generalizing first with
  | nil => simpa using hFirst
  | cons second others ih =>
    rw [List.intercalate_cons_cons, List.append_assoc]
    apply hFirst.append
    exact ih (hOthers second (by simp)) fun cs hcs => hOthers cs (List.mem_cons_of_mem _ hcs)

end StylesheetBuild.Text
