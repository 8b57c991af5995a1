import Mathlib.Data.List.TakeWhile
import StylesheetBuild.Proofs.Directive.Printing
import StylesheetBuild.Proofs.Options.PassedOn

/-!
# Prose before directives

Text before the first comma of a directive line that holds no colon is no directive, and the entries
behind it are read as if it was not there. That the comma ends an entry at all depends on the quotes
in the prose: a quote that it leaves open, an apostrophe too, takes in the comma and what follows it
up to the next such quote.
-/

namespace StylesheetBuild

namespace Directive

theorem ofEntry?_of_no_colon {entry : List Char} (h : ':' ∉ entry) : ofEntry? entry = none := by
  unfold ofEntry?
  rw [List.dropWhile_eq_nil_iff.mpr (Text.bne_of_not_mem h)]

/-! ## Blanks in front of a line -/

section

variable {blanks : List Char} (h : ∀ c ∈ blanks, Text.isBlank c = true)
include h

theorem isWhole_of_isBlank : IsWhole blanks := by
  apply isWhole_of_plain
  intro c hc
  have hBlank := h c hc
  constructor
  · rintro rfl
    exact absurd hBlank (by decide)
  · rw [← Bool.not_eq_true]
    intro hQuote
    rw [DirectiveValue.isBlank_of_isQuote hQuote] at hBlank
    cases hBlank

theorem ofEntry?_append_of_isBlank (entry : List Char) :
    ofEntry? (blanks ++ entry) = ofEntry? entry := by
  have hColon : ':' ∉ blanks := fun hc => absurd (h ':' hc) (by decide)
  have hBefore := Text.bne_of_not_mem hColon
  unfold ofEntry?
  rw [List.dropWhile_append_of_pos hBefore, List.takeWhile_append_of_pos hBefore,
    Text.trim_append_of_isBlank h]

theorem filterMap_entries_append_of_isBlank (line : List Char) :
    (entries (blanks ++ line)).filterMap ofEntry? = (entries line).filterMap ofEntry? := by
  rw [entries_append (isWhole_of_isBlank h)]
  cases entries line with
  | nil => rfl
  | cons entry rest =>
    rw [List.modifyHead_cons, List.filterMap_cons, List.filterMap_cons, ofEntry?_append_of_isBlank h]

end

theorem filterMap_entries_trimEnd (line : List Char) :
    (entries (Text.trimEnd line)).filterMap ofEntry? =
      (entries (Text.trim line)).filterMap ofEntry? := by
  obtain ⟨blanks, hBlanks, hTrim⟩ := Text.exists_trimEnd_eq line
  rw [hTrim, filterMap_entries_append_of_isBlank hBlanks]

theorem openQuote_trimStart (text : List Char) : openQuote (Text.trimStart text) = openQuote text := by
  have hBlanks : ∀ c ∈ text.takeWhile Text.isBlank, Text.isBlank c = true :=
    List.all_eq_true.mp List.all_takeWhile
  have hWhole := List.takeWhile_append_dropWhile (p := Text.isBlank) (l := text)
  conv_rhs => rw [← hWhole, openQuote, List.foldl_append, ← openQuote, (isWhole_of_isBlank hBlanks).closed]
  rfl

/-! ## Comments -/

theorem ofContent_comment {content : String} {comment : List Char}
    (h : content.toList = '/' :: '/' :: comment) :
    ofContent content = (entries (Text.trim (Text.firstLine comment))).filterMap ofEntry? := by
  have hLine : Text.firstLine (['/', '/'] ++ comment) = ['/', '/'] ++ Text.firstLine comment :=
    Text.firstLine_append_front (by decide) (by decide) comment
  have hStart : Text.trimStart (['/', '/'] ++ Text.firstLine comment) =
      ['/', '/'] ++ Text.firstLine comment := by
    apply Text.trimStart_eq_self
    rintro c ⟨⟩
    decide
  simp only [List.cons_append, List.nil_append] at hLine hStart
  rw [ofContent, h, line?, hLine, hStart]
  rfl

theorem firstLine_of_prose {prose : List Char} (hFeed : '\n' ∉ prose) (rest : List Char) :
    Text.firstLine (prose ++ ',' :: rest) = prose ++ ',' :: Text.firstLine rest := by
  have hFront : '\n' ∉ prose ++ [','] := by simp [hFeed]
  have hLine := Text.firstLine_append_front hFront (by simp) rest
  simpa using hLine

/-- Prose without a colon that leaves no quote open changes nothing about the entries behind it. -/
theorem ofContent_of_prose {prose : List Char} (hComma : ',' ∉ prose) (hColon : ':' ∉ prose)
    (hFeed : '\n' ∉ prose) (hClosed : openQuote prose = none) {content bare : String} {rest : List Char}
    (hContent : content.toList = '/' :: '/' :: (prose ++ ',' :: rest))
    (hBare : bare.toList = '/' :: '/' :: rest) : ofContent content = ofContent bare := by
  have hSubset := Text.trimStart_subset prose
  have hWhole : IsWhole (Text.trimStart prose) := by
    refine ⟨uncut_of_no_comma (fun hc => hComma (hSubset hc)) none, ?_⟩
    rw [openQuote_trimStart, hClosed]
  have hNone : ofEntry? (Text.trimStart prose) = none :=
    ofEntry?_of_no_colon fun hc => hColon (hSubset hc)
  rw [ofContent_comment hContent, firstLine_of_prose hFeed, Text.trim_append_cons (by decide),
    entries_append_comma hWhole, List.filterMap_cons_none hNone, filterMap_entries_trimEnd,
    ofContent_comment hBare]

/-! ## An open quote -/

/-- An entry that runs on past a comma has a key with that comma in it. -/
theorem comma_mem_key {entry more : List Char} (hColon : ':' ∉ entry) {d : Directive}
    (h : ofEntry? (entry ++ ',' :: more) = some d) : ',' ∈ d.key.toList := by
  have hKey : Text.trim ((entry ++ ',' :: more).takeWhile (· != ':')) =
      Text.trimStart entry ++ ',' :: Text.trimEnd (more.takeWhile (· != ':')) := by
    rw [List.takeWhile_append_of_pos (Text.bne_of_not_mem hColon),
      List.takeWhile_cons_of_pos (by decide), Text.trim_append_cons (by decide)]
  unfold ofEntry? at h
  split at h
  · cases h
  · rw [hKey] at h
    dsimp only at h
    split at h
    · cases h
    · cases h
      change ',' ∈ (optionKey (String.ofList _)).toList
      unfold optionKey
      split
      · rename_i hOut
        have hComma := congrArg (',' ∈ ·.toList) hOut
        simp at hComma
      · simp

theorem entries_of_open {prose : List Char} (hComma : ',' ∉ prose) {quote : Char}
    (hOpen : openQuote prose = some quote) :
    entries (Text.trim (prose ++ ",a: b".toList)) = [Text.trimStart prose ++ ",a: b".toList] := by
  have hQuote : quote = '"' ∨ quote = '\'' := by
    simpa [isQuote] using isQuote_of_openQuote prose quote hOpen
  have hText : Text.trim (prose ++ ",a: b".toList) = Text.trimStart prose ++ ",a: b".toList :=
    Text.trim_append_cons (by decide) prose "a: b".toList
  have hUncut : Uncut none (Text.trimStart prose) :=
    uncut_of_no_comma (fun hc => hComma (Text.trimStart_subset prose hc)) none
  rw [hText, entries, cutEntries_append hUncut, ← openQuote, openQuote_trimStart, hOpen]
  rcases hQuote with rfl | rfl <;> rfl

end Directive

open Directive Options

theorem toList_comment (comment : String) : ("//" ++ comment).toList = '/' :: '/' :: comment.toList := by
  simp

theorem toList_comment_of_prose (prose rest : String) :
    ("//" ++ prose ++ "," ++ rest).toList = '/' :: '/' :: (prose.toList ++ ',' :: rest.toList) := by
  simp

theorem extra_of_open {prose : String} (hComma : ',' ∉ prose.toList) (hColon : ':' ∉ prose.toList)
    (hFeed : '\n' ∉ prose.toList) {quote : Char} (hOpen : openQuote prose.toList = some quote) :
    (Options.ofContent ("//" ++ prose ++ "," ++ "a: b")).extra["a"]? = none := by
  have hSubset := Text.trimStart_subset prose.toList
  have hDirectives : Directive.ofContent ("//" ++ prose ++ "," ++ "a: b") =
      [Text.trimStart prose.toList ++ ",a: b".toList].filterMap ofEntry? := by
    rw [ofContent_comment (toList_comment_of_prose prose "a: b"), firstLine_of_prose hFeed]
    exact congrArg (·.filterMap ofEntry?) (entries_of_open hComma hOpen)
  rw [Options.ofContent, extra_ofDirectives, hDirectives]
  cases hEntry : ofEntry? (Text.trimStart prose.toList ++ ",a: b".toList) with
  | none =>
    rw [List.filterMap_cons_none hEntry]
    exact passedOn?_nil
  | some d =>
    rw [List.filterMap_cons_some hEntry]
    have hKey : d.key ≠ "a" := by
      intro hKey
      have hMember := comma_mem_key (fun hc => hColon (hSubset hc)) hEntry
      rw [hKey] at hMember
      exact absurd hMember (by decide)
    simp [passedOn?, Value.lastField?_singleton, field, hKey]

/-- Prose before the first comma is ignored whatever follows it, if and only if it leaves no quote
open. -/
theorem prose_ignored_iff {prose : String} (hComma : ',' ∉ prose.toList)
    (hColon : ':' ∉ prose.toList) (hFeed : '\n' ∉ prose.toList) :
    (∀ rest : String, '\n' ∉ rest.toList →
      Options.ofContent ("//" ++ prose ++ "," ++ rest) = Options.ofContent ("//" ++ rest)) ↔
      openQuote prose.toList = none := by
  constructor
  · intro hSame
    -- The entry `a: b` tells the two apart: alone it sets `a`, behind an open quote it is taken in.
    by_contra hOpen
    obtain ⟨quote, hQuote⟩ := Option.ne_none_iff_exists'.mp hOpen
    have hBare : (Options.ofContent ("//" ++ "a: b")).extra["a"]? = some (.str "b") := by
      have hDirectives : Directive.ofContent ("//" ++ "a: b") = [⟨"a", .text "b"⟩] := by
        decide +kernel
      rw [Options.ofContent, extra_ofDirectives, hDirectives]
      rfl
    rw [← hSame "a: b" (by decide), extra_of_open hComma hColon hFeed hQuote] at hBare
    cases hBare
  · intro hClosed rest _
    rw [Options.ofContent, Options.ofContent, ofContent_of_prose hComma hColon hFeed hClosed
      (toList_comment_of_prose prose rest) (toList_comment rest)]

/-- Prose with a pair of quotes, which hold the other quote, before a directive with a comma in quotes. -/
theorem prose_ignored_quoted_word :
    let prose := " \"don't edit\" me"
    let rest := " out: 'a, b'"
    ',' ∉ prose.toList ∧ ':' ∉ prose.toList ∧ '\n' ∉ prose.toList ∧
      openQuote prose.toList = none ∧ '\n' ∉ rest.toList ∧
      Options.ofContent ("//" ++ prose ++ "," ++ rest) = Options.ofContent ("//" ++ rest) ∧
      (Options.ofContent ("//" ++ rest)).outputPath = some (.template "a, b") := by
  intro prose rest
  have hComma : ',' ∉ prose.toList := by decide +kernel
  have hColon : ':' ∉ prose.toList := by decide +kernel
  have hFeed : '\n' ∉ prose.toList := by decide +kernel
  have hClosed : openQuote prose.toList = none := by decide +kernel
  have hLine : '\n' ∉ rest.toList := by decide +kernel
  have hSame := (prose_ignored_iff hComma hColon hFeed).mpr hClosed rest hLine
  exact ⟨hComma, hColon, hFeed, hClosed, hLine, hSame, by decide +kernel⟩

/-- Where prose opens a quote that a directive closes, the comma between them is one in quotes. -/
theorem prose_not_ignored_quoted_comma :
    let prose := " see \"a"
    let rest := " out: dist/, b\" here"
    ',' ∉ prose.toList ∧ ':' ∉ prose.toList ∧ '\n' ∉ prose.toList ∧ '\n' ∉ rest.toList ∧
      (Options.ofContent ("//" ++ prose ++ "," ++ rest)).outputPath = none ∧
      (Options.ofContent ("//" ++ rest)).outputPath = some (.template "dist/") ∧
      Options.ofContent ("//" ++ prose ++ "," ++ rest) ≠ Options.ofContent ("//" ++ rest) := by
  intro prose rest
  have hTaken : (Options.ofContent ("//" ++ prose ++ "," ++ rest)).outputPath = none := by
    decide +kernel
  have hRead : (Options.ofContent ("//" ++ rest)).outputPath = some (.template "dist/") := by
    decide +kernel
  refine ⟨by decide +kernel, by decide +kernel, by decide +kernel, by decide +kernel, hTaken,
    hRead, ?_⟩
  intro hSame
  rw [hSame, hRead] at hTaken
  cases hTaken

end StylesheetBuild
