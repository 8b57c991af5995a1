import Mathlib.Data.List.Infix
import Mathlib.Tactic.Common
import StylesheetBuild.Text.Substitution

/-!
# Replaced texts

A text without an occurrence of the pattern is left alone, and an occurrence at the front is replaced
and done with. What starts like the pattern does not change the first character of a text, and the
characters that neither of the two holds stay as many as they are.
-/

namespace StylesheetBuild.Text

section

variable {old cs : List Char}

theorem isPrefixOf_eq_false (h : ¬old <:+: cs) : ¬old.isPrefixOf cs = true := fun hPrefix =>
  h (List.isPrefixOf_iff_prefix.mp hPrefix).isInfix

theorem isEmpty_eq_false (h : ¬old <:+: cs) : ¬old.isEmpty = true := by
  rw [List.isEmpty_iff]
  rintro rfl
  exact h List.nil_infix

theorem substituteFrom_eq_self (h : ¬old <:+: cs) (new : List Char) :
    substituteFrom old new 0 cs = cs := by
  induction cs with
  | nil => rfl
  | cons c cs ih =>
    rw [substituteFrom, if_neg (isPrefixOf_eq_false h), ih fun hLater => h (List.infix_cons hLater)]

theorem replaceAll_eq_self (h : ¬old <:+: cs) (new : List Char) : replaceAll old new cs = cs := by
  rw [replaceAll, if_neg (isEmpty_eq_false h), substituteFrom_eq_self h]

theorem replaceFirst_eq_self (h : ¬old <:+: cs) (new : List Char) : replaceFirst old new cs = cs := by
  induction cs with
  | nil => rw [replaceFirst, if_neg (isEmpty_eq_false h)]
  | cons c cs ih =>
    rw [replaceFirst, if_neg (isPrefixOf_eq_false h), ih fun hLater => h (List.infix_cons hLater)]

end

theorem substituteFrom_eq_drop (old new : List Char) (skip : Nat) (cs : List Char) :
    substituteFrom old new skip cs = substituteFrom old new 0 (cs.drop skip) := by
  induction cs generalizing skip with
  | nil => cases skip <;> rfl
  | cons c cs ih =>
    cases skip with
    | zero => rfl
    | succ skip => rw [substituteFrom, ih, List.drop_succ_cons]

section

variable {old : List Char} (hOld : old ≠ [])
include hOld

theorem replaceAll_self_append (new after : List Char) :
    replaceAll old new (old ++ after) = new ++ replaceAll old new after := by
  obtain ⟨c, rest, rfl⟩ := List.exists_cons_of_ne_nil hOld
  have hHere : (c :: rest).isPrefixOf (c :: (rest ++ after)) = true := by
    rw [List.isPrefixOf_iff_prefix]
    exact List.prefix_append (c :: rest) after
  have hDrop : (rest ++ after).drop ((c :: rest).length - 1) = after := List.drop_left
  rw [replaceAll, if_neg (by simp), List.cons_append, substituteFrom, if_pos hHere,
    substituteFrom_eq_drop, hDrop, replaceAll, if_neg (by simp)]

theorem replaceAll_self (new : List Char) : replaceAll old new old = new := by
  have hNone : ¬old <:+: [] := by rwa [List.infix_nil]
  have hWhole := replaceAll_self_append hOld new []
  rwa [replaceAll_eq_self hNone, List.append_nil, List.append_nil] at hWhole

theorem replaceFirst_self_append (new after : List Char) :
    replaceFirst old new (old ++ after) = new ++ after := by
  obtain ⟨c, rest, rfl⟩ := List.exists_cons_of_ne_nil hOld
  have hHere : (c :: rest).isPrefixOf (c :: (rest ++ after)) = true := by
    rw [List.isPrefixOf_iff_prefix]
    exact List.prefix_append (c :: rest) after
  rw [List.cons_append, replaceFirst, if_pos hHere, ← List.cons_append, List.drop_left]

theorem replaceAll_cons_of_not_isPrefix {c : Char} {cs : List Char} (h : ¬old <+: c :: cs)
    (new : List Char) : replaceAll old new (c :: cs) = c :: replaceAll old new cs := by
  have hSome : ¬old.isEmpty = true := by rwa [List.isEmpty_iff]
  rw [replaceAll, if_neg hSome, substituteFrom, if_neg (by rwa [List.isPrefixOf_iff_prefix]),
    replaceAll, if_neg hSome]

/-- Induction along the scan: a text starts with an occurrence, or with a character that is kept. -/
theorem replaceAll_induction (new : List Char) {P : List Char → List Char → Prop} (nil : P [] [])
    (here : ∀ after, P after (replaceAll old new after) →
      P (old ++ after) (new ++ replaceAll old new after))
    (keep : ∀ c cs, ¬old <+: c :: cs → P cs (replaceAll old new cs) →
      P (c :: cs) (c :: replaceAll old new cs)) (cs : List Char) : P cs (replaceAll old new cs) := by
  induction hLength : cs.length using Nat.strong_induction_on generalizing cs with
  | _ length ih =>
    subst hLength
    by_cases hHere : old <+: cs
    · obtain ⟨after, rfl⟩ := hHere
      have hSome := List.length_pos_of_ne_nil hOld
      rw [replaceAll_self_append hOld]
      exact here after (ih after.length (by rw [List.length_append]; omega) after rfl)
    · cases cs with
      | nil =>
        have hNone : replaceAll old new [] = [] := replaceAll_eq_self (mt List.infix_nil.mp hOld) new
        rw [hNone]
        exact nil
      | cons c cs =>
        rw [replaceAll_cons_of_not_isPrefix hOld hHere]
        exact keep c cs hHere (ih cs.length (by simp) cs rfl)

theorem head?_replaceAll {new : List Char} (hHead : new.head? = old.head?) (cs : List Char) :
    (replaceAll old new cs).head? = cs.head? := by
  apply replaceAll_induction hOld new (P := fun cs replaced => replaced.head? = cs.head?)
  case nil => rfl
  case here =>
    intro after _
    obtain ⟨c, rest, rfl⟩ := List.exists_cons_of_ne_nil hOld
    rw [List.head?_append, hHead]
    rfl
  case keep => exact fun _ _ _ _ => rfl

theorem count_replaceAll {new : List Char} {c : Char} (hPattern : c ∉ old) (hNew : c ∉ new)
    (cs : List Char) : (replaceAll old new cs).count c = cs.count c := by
  apply replaceAll_induction hOld new (P := fun cs replaced => replaced.count c = cs.count c)
  case nil => rfl
  case here =>
    intro after ih
    rw [List.count_append, List.count_append, List.count_eq_zero_of_not_mem hPattern,
      List.count_eq_zero_of_not_mem hNew, ih]
  case keep =>
    intro first cs _ ih
    rw [List.count_cons, List.count_cons, ih]

end

end StylesheetBuild.Text
