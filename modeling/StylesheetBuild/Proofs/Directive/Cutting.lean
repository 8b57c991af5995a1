import Mathlib.Data.List.Induction
import Mathlib.Tactic.Common
import StylesheetBuild.Directive.Entries

/-!
# Where a directive line is cut

Cutting loses nothing but the commas that it cuts at, and it can be done from left to right: what
follows a text goes on with its last entry. A text without a comma outside quotes stays in one entry,
and what follows it is cut as the quote that it leaves open demands. Texts that leave no quote open
can be strung together with commas.
-/

namespace StylesheetBuild.Directive

theorem cutEntries_ne_nil (quote : Option Char) (text : List Char) : cutEntries quote text ≠ [] := by
  induction text generalizing quote with
  | nil => exact List.cons_ne_nil _ _
  | cons c text ih =>
    rw [cutEntries]
    split
    · exact List.cons_ne_nil _ _
    · rw [ne_eq, List.modifyHead_eq_nil_iff]
      exact ih (nextQuote quote c)

theorem intercalate_cutEntries (quote : Option Char) (text : List Char) :
    [','].intercalate (cutEntries quote text) = text := by
  induction text generalizing quote with
  | nil => rfl
  | cons c text ih =>
    rw [cutEntries]
    split
    · rename_i hCut
      rw [List.intercalate_cons_of_ne_nil (cutEntries_ne_nil none text), ih, hCut.2]
      rfl
    · have hRest := ih (nextQuote quote c)
      obtain ⟨first, others, hFirst⟩ :=
        List.exists_cons_of_ne_nil (cutEntries_ne_nil (nextQuote quote c) text)
      rw [hFirst] at hRest ⊢
      rw [List.modifyHead_cons, List.intercalate_cons_cons_left, hRest]

theorem intercalate_entries (line : List Char) : [','].intercalate (entries line) = line :=
  intercalate_cutEntries none line

/-- What follows a text leaves its entries as they are, except that the last one goes on. -/
theorem exists_cutEntries_append (quote : Option Char) (text : List Char) :
    ∃ init last, cutEntries quote text = init ++ [last] ∧ ∀ more, cutEntries quote (text ++ more) =
      init ++ (cutEntries (text.foldl nextQuote quote) more).modifyHead (last ++ ·) := by
  induction text generalizing quote with
  | nil =>
    refine ⟨[], [], rfl, fun more => ?_⟩
    cases hMore : cutEntries quote more <;> simp [hMore]
  | cons c text ih =>
    by_cases hCut : quote = none ∧ c = ','
    · obtain ⟨rfl, rfl⟩ := hCut
      obtain ⟨init, last, hText, hMore⟩ := ih none
      refine ⟨[] :: init, last, ?_, fun more => ?_⟩
      · rw [cutEntries, if_pos ⟨rfl, rfl⟩, hText, List.cons_append]
      · rw [List.cons_append, cutEntries, if_pos ⟨rfl, rfl⟩, hMore, List.cons_append]
        rfl
    · obtain ⟨init, last, hText, hMore⟩ := ih (nextQuote quote c)
      simp only [List.cons_append, cutEntries, if_neg hCut, hText, hMore, List.foldl_cons]
      cases init with
      | nil => exact ⟨[], c :: last, rfl, fun more => List.modifyHead_modifyHead⟩
      | cons first init => exact ⟨(c :: first) :: init, last, rfl, fun more => rfl⟩

/-- One more character ends the last entry or is added to it. -/
theorem exists_entries_concat (text : List Char) :
    ∃ init last, entries text = init ++ [last] ∧ ∀ c, entries (text ++ [c]) =
      if openQuote text = none ∧ c = ',' then init ++ [last] ++ [[]] else init ++ [last ++ [c]] := by
  obtain ⟨init, last, hText, hMore⟩ := exists_cutEntries_append none text
  refine ⟨init, last, hText, fun c => ?_⟩
  rw [entries, hMore, ← openQuote, cutEntries]
  split <;> simp [cutEntries]

theorem openQuote_concat (text : List Char) (c : Char) :
    openQuote (text ++ [c]) = nextQuote (openQuote text) c := by
  rw [openQuote, List.foldl_append]
  rfl

/-- No comma stands outside quotes, if the text starts inside the given quote or outside any. -/
def Uncut : Option Char → List Char → Prop
  | _, [] => True
  | quote, c :: cs => ¬(quote = none ∧ c = ',') ∧ Uncut (nextQuote quote c) cs

theorem cutEntries_append {quote : Option Char} {text : List Char} (h : Uncut quote text)
    (rest : List Char) :
    cutEntries quote (text ++ rest) =
      (cutEntries (text.foldl nextQuote quote) rest).modifyHead (text ++ ·) := by
  induction text generalizing quote with
  | nil => cases hRest : cutEntries quote rest <;> simp [hRest]
  | cons c text ih =>
    obtain ⟨hHere, hLater⟩ := h
    rw [List.cons_append, cutEntries, if_neg hHere, ih hLater, List.foldl_cons,
      List.modifyHead_modifyHead]
    rfl

theorem uncut_append {quote : Option Char} {text more : List Char} (hText : Uncut quote text)
    (hMore : Uncut (text.foldl nextQuote quote) more) : Uncut quote (text ++ more) := by
  induction text generalizing quote with
  | nil => exact hMore
  | cons c text ih => exact ⟨hText.1, ih hText.2 hMore⟩

theorem uncut_of_no_comma {text : List Char} (h : ',' ∉ text) (quote : Option Char) :
    Uncut quote text := by
  induction text generalizing quote with
  | nil => trivial
  | cons c text ih =>
    obtain ⟨hHere, hLater⟩ : ',' ≠ c ∧ ',' ∉ text := by simpa using h
    exact ⟨fun hCut => hHere hCut.2.symm, ih hLater (nextQuote quote c)⟩

theorem isQuote_of_nextQuote {before : Option Char} (h : ∀ q ∈ before, isQuote q = true) (c : Char) :
    ∀ q ∈ nextQuote before c, isQuote q = true := by
  intro q hq
  cases before with
  | none =>
    rw [nextQuote] at hq
    split at hq
    · cases hq
      assumption
    · cases hq
  | some before =>
    rw [nextQuote] at hq
    split at hq
    · cases hq
    · cases hq
      exact h q rfl

theorem isQuote_of_openQuote (text : List Char) : ∀ q ∈ openQuote text, isQuote q = true := by
  induction text using List.reverseRecOn with
  | nil => simp [openQuote]
  | append_singleton text c ih =>
    rw [openQuote_concat]
    exact isQuote_of_nextQuote ih c

/-- A text that is cut nowhere and leaves no quote open. -/
structure IsWhole (text : List Char) : Prop where
  uncut : Uncut none text
  closed : openQuote text = none

theorem IsWhole.append {text more : List Char} (hText : IsWhole text) (hMore : IsWhole more) :
    IsWhole (text ++ more) where
  uncut := by
    apply uncut_append hText.uncut
    rw [← openQuote, hText.closed]
    exact hMore.uncut
  closed := by
    have hClosed := hText.closed
    rw [openQuote] at hClosed ⊢
    rw [List.foldl_append, hClosed]
    exact hMore.closed

theorem isWhole_of_plain {text : List Char} (h : ∀ c ∈ text, c ≠ ',' ∧ isQuote c = false) :
    IsWhole text := by
  induction text with
  | nil => exact ⟨trivial, rfl⟩
  | cons c text ih =>
    obtain ⟨hComma, hQuote⟩ := h c (by simp)
    obtain ⟨hUncut, hClosed⟩ := ih fun other hOther => h other (List.mem_cons_of_mem _ hOther)
    have hNext : nextQuote none c = none := by simp [nextQuote, hQuote]
    refine ⟨⟨fun hCut => hComma hCut.2, by rwa [hNext]⟩, ?_⟩
    rw [openQuote, List.foldl_cons, hNext]
    exact hClosed

/-- Inside a quote the other characters leave it open. -/
theorem foldl_nextQuote_of_not_mem {quote : Char} {text : List Char} (h : quote ∉ text) :
    text.foldl nextQuote (some quote) = some quote := by
  induction text with
  | nil => rfl
  | cons c text ih =>
    obtain ⟨hHere, hLater⟩ : quote ≠ c ∧ quote ∉ text := by simpa using h
    rw [List.foldl_cons, nextQuote, if_neg (Ne.symm hHere), ih hLater]

theorem uncut_of_not_mem {quote : Char} {text : List Char} (h : quote ∉ text) :
    Uncut (some quote) text := by
  induction text with
  | nil => trivial
  | cons c text ih =>
    obtain ⟨hHere, hLater⟩ : quote ≠ c ∧ quote ∉ text := by simpa using h
    refine ⟨by simp, ?_⟩
    rw [nextQuote, if_neg (Ne.symm hHere)]
    exact ih hLater

theorem isWhole_quoted {quote : Char} {text : List Char} (hQuote : isQuote quote = true)
    (h : quote ∉ text) : IsWhole (quote :: text ++ [quote]) := by
  have hOpens : nextQuote none quote = some quote := by simp [nextQuote, hQuote]
  have hOpen := foldl_nextQuote_of_not_mem h
  have hComma : quote ≠ ',' := by
    rintro rfl
    exact absurd hQuote (by decide)
  refine ⟨⟨fun hCut => hComma hCut.2, ?_⟩, ?_⟩
  · rw [hOpens]
    apply uncut_append (uncut_of_not_mem h)
    rw [hOpen]
    exact ⟨by simp, trivial⟩
  · rw [openQuote, List.cons_append, List.foldl_cons, hOpens, List.foldl_append, hOpen]
    simp [nextQuote]

theorem entries_of_isWhole {text : List Char} (h : IsWhole text) : entries text = [text] := by
  have hCut := cutEntries_append h.uncut []
  rw [List.append_nil, ← openQuote, h.closed] at hCut
  simpa [entries, cutEntries] using hCut

theorem entries_append_comma {text : List Char} (h : IsWhole text) (rest : List Char) :
    entries (text ++ ',' :: rest) = text :: entries rest := by
  rw [entries, cutEntries_append h.uncut, ← openQuote, h.closed, cutEntries, if_pos ⟨rfl, rfl⟩]
  simp [entries]

theorem entries_append {text : List Char} (h : IsWhole text) (rest : List Char) :
    entries (text ++ rest) = (entries rest).modifyHead (text ++ ·) := by
  rw [entries, cutEntries_append h.uncut, ← openQuote, h.closed, ← entries]

theorem entries_blank_cons (line : List Char) :
    entries (' ' :: line) = (entries line).modifyHead (' ' :: ·) := by
  have hBlank : IsWhole [' '] := isWhole_of_plain (by simp [isQuote])
  exact entries_append hBlank line

/-- Texts strung together with a comma and a blank are cut into the texts, with the blank before
each of them but the first. -/
theorem entries_intercalate {first : List Char} {others : List (List Char)} (hFirst : IsWhole first)
    (hOthers : ∀ text ∈ others, IsWhole text) :
    entries ([',', ' '].intercalate (first :: others)) = first :: others.map (' ' :: ·) := by
  induction others generalizing first with
  | nil => simpa using entries_of_isWhole hFirst
  | cons second others ih =>
    have hLine : [',', ' '].intercalate (first :: second :: others) =
        first ++ ',' :: ' ' :: [',', ' '].intercalate (second :: others) := by
      simp [List.intercalate_cons_cons]
    rw [hLine, entries_append_comma hFirst, entries_blank_cons,
      ih (hOthers second (by simp)) fun text hText => hOthers text (List.mem_cons_of_mem _ hText)]
    rfl

end StylesheetBuild.Directive
