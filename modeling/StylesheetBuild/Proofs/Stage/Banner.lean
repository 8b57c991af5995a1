import StylesheetBuild.Proofs.Text.Occurrence
import StylesheetBuild.Proofs.Text.Replacement
import StylesheetBuild.Stage.Banner

/-!
# The comment of a banner

Breaking up the ends of comments in a text makes no new ones: an end that is broken up starts and ends
with the characters that it had, so none can arise at its borders. A blank then parts the text from
both delimiters, and the comment ends where it has been closed.
-/

namespace StylesheetBuild.Banner

theorem commentEnd_ne_nil : commentEnd ≠ [] := by
  decide

theorem blank_not_mem_commentEnd : ' ' ∉ commentEnd := by
  decide

theorem commentEnd_prefix_cons_iff (c : Char) (cs : List Char) :
    commentEnd <+: c :: cs ↔ c = '*' ∧ cs.head? = some '/' := by
  cases cs with
  | nil => simp [commentEnd]
  | cons next cs => simp [commentEnd, eq_comm]

theorem not_infix_replaceAll (cs : List Char) :
    ¬commentEnd <:+: Text.replaceAll commentEnd ['*', ' ', '/'] cs := by
  apply Text.replaceAll_induction commentEnd_ne_nil ['*', ' ', '/']
    (P := fun _ replaced => ¬commentEnd <:+: replaced)
  case nil => decide
  case here =>
    intro after ih
    change ¬commentEnd <:+: ['*'] ++ ' ' :: '/' :: Text.replaceAll commentEnd ['*', ' ', '/'] after
    rw [Text.infix_append_cons_iff blank_not_mem_commentEnd]
    rintro (hStar | hRest)
    · exact absurd hStar (by decide)
    · rcases List.infix_cons_iff.mp hRest with hSlash | hAfter
      · exact absurd ((commentEnd_prefix_cons_iff _ _).mp hSlash).1 (by decide)
      · exact ih hAfter
  case keep =>
    intro c cs hHere ih
    -- What has been replaced starts with the same character, so `c` is followed by what followed it.
    have hFirst : ['*', ' ', '/'].head? = commentEnd.head? := rfl
    have hNext := Text.head?_replaceAll commentEnd_ne_nil hFirst cs
    rw [commentEnd_prefix_cons_iff] at hHere
    rw [List.infix_cons_iff, commentEnd_prefix_cons_iff, hNext, not_or]
    exact ⟨hHere, ih⟩

theorem not_infix_sanitize (text : String) : ¬commentEnd <:+: (sanitize text).toList := by
  rw [sanitize, String.toList_ofList]
  exact not_infix_replaceAll text.toList

theorem sanitize_eq_self_iff (text : String) :
    sanitize text = text ↔ ¬commentEnd <:+: text.toList := by
  constructor
  · intro hSame
    rw [← hSame]
    exact not_infix_sanitize text
  · intro hNone
    rw [sanitize, Text.replaceAll_eq_self hNone, String.ofList_toList]

theorem sanitize_sanitize (text : String) : sanitize (sanitize text) = sanitize text :=
  (sanitize_eq_self_iff _).mpr (not_infix_sanitize text)

/-- Behind the opening of a comment, its first end is the one that follows a text without any, set off
by blanks. -/
theorem isFirstFrom_commentEnd {inside : List Char} (h : ¬commentEnd <:+: inside) (rest : List Char) :
    Text.IsFirstFrom commentEnd 2 ("/* ".toList ++ inside ++ " */".toList ++ rest)
      (inside.length + 4) := by
  have hInside : ¬commentEnd <:+: ' ' :: inside ++ [' '] ++ commentEnd.dropLast := by
    have hBlanks : ' ' :: inside ++ [' '] ++ commentEnd.dropLast =
        [] ++ ' ' :: (inside ++ ' ' :: ['*']) := by
      simp [commentEnd]
    rw [hBlanks, Text.infix_append_cons_iff blank_not_mem_commentEnd,
      Text.infix_append_cons_iff blank_not_mem_commentEnd]
    rintro (hNone | hInside | hStar)
    · exact absurd hNone (by decide)
    · exact h hInside
    · exact absurd hStar (by decide)
  have hFirst := Text.isFirstFrom_append ['/', '*'] hInside rest
  have hText : "/* ".toList ++ inside ++ " */".toList ++ rest =
      ['/', '*'] ++ (' ' :: inside ++ [' '] ++ (commentEnd ++ rest)) := by
    simp [commentEnd]
  have hPosition : inside.length + 4 = ['/', '*'].length + (' ' :: inside ++ [' ']).length := by
    simp
    omega
  rw [hText, hPosition]
  exact hFirst

/-- The stage puts the text in a comment in front of the content, ends of comments in it broken up, so
that the first end of a comment is the one at the end of that line; and it keeps the text so written. -/
theorem stage_closes_comment {m : Type → Type} [Monad m] (text content : String)
    (context : StageContext) :
    let written := sanitize text
    let output := "/* " ++ written ++ " */" ++ "\n" ++ content
    ∃ after : StageContext,
      (stage (m := m) text).process content context = pure (output, after) ∧
      (∀ key, after[key]? = if key = contextKey then some (.str written) else context[key]?) ∧
      Text.IsFirstFrom commentEnd 2 output.toList (written.length + 4) ∧
      output.toList.drop (written.length + 4) = commentEnd ++ '\n' :: content.toList ∧
      sanitize written = written ∧ (written = text ↔ ¬commentEnd <:+: text.toList) := by
  intro written output
  have hOutput : output.toList =
      "/* ".toList ++ written.toList ++ " */".toList ++ '\n' :: content.toList := by
    simp [output]
  refine ⟨context.insert contextKey (.str written), rfl, ?_, ?_, ?_, sanitize_sanitize text,
    sanitize_eq_self_iff text⟩
  · intro key
    rw [Std.ExtTreeMap.getElem?_insert, eq_comm]
    simp only [Std.LawfulEqOrd.compare_eq_iff_eq, @eq_comm _ contextKey key]
  · rw [hOutput, ← String.length_toList]
    exact isFirstFrom_commentEnd (not_infix_sanitize text) _
  · rw [hOutput, ← String.length_toList]
    have hSplit : "/* ".toList ++ written.toList ++ " */".toList ++ '\n' :: content.toList =
        ("/* ".toList ++ written.toList ++ [' ']) ++ (commentEnd ++ '\n' :: content.toList) := by
      simp [commentEnd]
    rw [hSplit, List.drop_left']
    simp

/-- Runs of stars and slashes, ends of comments side by side and one that the text goes up to. -/
example : sanitize "**//*/*/ /*" = "** //* /* / /*" := by
  decide +kernel

end StylesheetBuild.Banner
