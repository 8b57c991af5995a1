import StylesheetBuild.Proofs.Directive.Cutting

/-!
# Positions of the cuts

Which quote is open behind a text, said without scanning it, and the commas of a line that lie
outside quotes. A line is cut at these and nowhere else.
-/

namespace StylesheetBuild.Directive

/-! ## Quotes -/

/-- The quote that is open behind a text. A quote is opened outside of quotes, and it is open as long
as the same character does not follow; the other kind of quote inside it is an ordinary letter. -/
inductive QuoteAfter : List Char → Option Char → Prop
  | start : QuoteAfter [] none
  | letter {text : List Char} {c : Char} (outside : QuoteAfter text none)
      (plain : isQuote c = false) : QuoteAfter (text ++ [c]) none
  | opened {text inside : List Char} {quote : Char} (outside : QuoteAfter text none)
      (starts : isQuote quote = true) (stays : quote ∉ inside) :
      QuoteAfter (text ++ quote :: inside) (some quote)
  | closed {text : List Char} {quote : Char} (inside : QuoteAfter text (some quote)) :
      QuoteAfter (text ++ [quote]) none

namespace QuoteAfter

variable {text : List Char} {quote : Option Char}

theorem openQuote_eq (h : QuoteAfter text quote) : openQuote text = quote := by
  induction h with
  | start => rfl
  | letter _ plain ih => simp [openQuote_concat, ih, nextQuote, plain]
  | opened _ starts stays ih =>
    rw [openQuote, List.foldl_append, ← openQuote, ih, List.foldl_cons, nextQuote, if_pos starts,
      foldl_nextQuote_of_not_mem stays]
  | closed _ ih => simp [openQuote_concat, ih, nextQuote]

theorem concat_of_ne {quote c : Char} (h : QuoteAfter text (some quote)) (hOther : c ≠ quote) :
    QuoteAfter (text ++ [c]) (some quote) := by
  cases h with
  | @opened text inside _ outside starts stays =>
    have hInside : quote ∉ inside ++ [c] := by simp [stays, Ne.symm hOther]
    simpa using opened outside starts hInside

end QuoteAfter

theorem quoteAfter_openQuote (text : List Char) : QuoteAfter text (openQuote text) := by
  induction text using List.reverseRecOn with
  | nil => exact .start
  | append_singleton text c ih =>
    rw [openQuote_concat]
    cases hOpen : openQuote text with
    | none =>
      rw [hOpen] at ih
      cases hQuote : isQuote c with
      | false => simpa [nextQuote, hQuote] using ih.letter hQuote
      | true => simpa [nextQuote, hQuote] using ih.opened hQuote List.not_mem_nil
    | some quote =>
      rw [hOpen] at ih
      rw [nextQuote]
      split
      · rename_i hClosing
        rw [hClosing]
        exact ih.closed
      · rename_i hOther
        exact ih.concat_of_ne hOther

theorem quoteAfter_iff {text : List Char} {quote : Option Char} :
    QuoteAfter text quote ↔ openQuote text = quote := by
  constructor
  · exact QuoteAfter.openQuote_eq
  · rintro rfl
    exact quoteAfter_openQuote text

/-- A quote is open in front of that position of the text. -/
def InQuotes (text : List Char) (position : Nat) : Prop :=
  ∃ quote, QuoteAfter (text.take position) (some quote)

theorem inQuotes_iff {text : List Char} {position : Nat} :
    InQuotes text position ↔ openQuote (text.take position) ≠ none := by
  simp only [InQuotes, quoteAfter_iff, Option.ne_none_iff_exists']

instance (text : List Char) (position : Nat) : Decidable (InQuotes text position) :=
  decidable_of_iff _ inQuotes_iff.symm

/-! ## Commas and cuts -/

/-- The positions of the commas outside quotes, in ascending order. -/
def outsideCommas (text : List Char) : List Nat :=
  (List.range text.length).filter fun position =>
    text[position]? = some ',' ∧ ¬InQuotes text position

/-- Where entries strung together with commas meet: each position lies behind some of the entries and
the commas between these. -/
def cutPositions (parts : List (List Char)) : List Nat :=
  (List.range (parts.length - 1)).map fun n => ([','].intercalate (parts.take (n + 1))).length

theorem outsideCommas_concat (text : List Char) (c : Char) :
    outsideCommas (text ++ [c]) =
      outsideCommas text ++ if openQuote text = none ∧ c = ',' then [text.length] else [] := by
  have hBefore : ∀ position ∈ List.range text.length,
      decide ((text ++ [c])[position]? = some ',' ∧ ¬InQuotes (text ++ [c]) position) =
        decide (text[position]? = some ',' ∧ ¬InQuotes text position) := by
    intro position hPosition
    have hInside := List.mem_range.mp hPosition
    simp only [inQuotes_iff]
    rw [List.getElem?_append_left hInside, List.take_append_of_le_length (Nat.le_of_lt hInside)]
  rw [outsideCommas, List.length_append, List.length_singleton, List.range_succ, List.filter_append,
    List.filter_congr hBefore, ← outsideCommas]
  simp [List.filter_cons, inQuotes_iff, and_comm]

theorem cutPositions_concat {parts : List (List Char)} (h : parts ≠ []) (last : List Char) :
    cutPositions (parts ++ [last]) = cutPositions parts ++ [([','].intercalate parts).length] := by
  have hSome := List.length_pos_iff.mpr h
  have hLength : (parts ++ [last]).length - 1 = parts.length - 1 + 1 := by
    rw [List.length_append, List.length_singleton]
    omega
  have hBefore : ∀ n ∈ List.range (parts.length - 1),
      ([','].intercalate ((parts ++ [last]).take (n + 1))).length =
        ([','].intercalate (parts.take (n + 1))).length := by
    intro n hn
    have hInside := List.mem_range.mp hn
    rw [List.take_append_of_le_length (by omega)]
  have hWhole : (parts ++ [last]).take (parts.length - 1 + 1) = parts := by
    rw [Nat.sub_add_cancel hSome]
    exact List.take_left
  rw [cutPositions, hLength, List.range_succ, List.map_append, List.map_congr_left hBefore,
    List.map_singleton, hWhole, ← cutPositions]

/-- The text of the last entry does not count. -/
theorem cutPositions_last (init : List (List Char)) (last other : List Char) :
    cutPositions (init ++ [last]) = cutPositions (init ++ [other]) := by
  by_cases hInit : init = []
  · rw [hInit]
    rfl
  · rw [cutPositions_concat hInit, cutPositions_concat hInit]

theorem cutPositions_entries (line : List Char) :
    cutPositions (entries line) = outsideCommas line := by
  induction line using List.reverseRecOn with
  | nil => rfl
  | append_singleton text c ih =>
    obtain ⟨init, last, hText, hNext⟩ := exists_entries_concat text
    have hJoined := intercalate_entries text
    rw [hText] at hJoined ih
    rw [hNext, outsideCommas_concat, ← ih]
    split
    · rw [cutPositions_concat (by simp), hJoined]
    · rw [List.append_nil]
      exact cutPositions_last init (last ++ [c]) last

/-- The double quote opens nothing inside the single ones. -/
example : outsideCommas "a: 'b, \"c', d: 1, e: \"".toList = [10, 16] := by decide

theorem length_entries (line : List Char) :
    (entries line).length = (outsideCommas line).length + 1 := by
  have hSome := List.length_pos_iff.mpr (cutEntries_ne_nil none line)
  rw [← entries] at hSome
  rw [← cutPositions_entries, cutPositions, List.length_map, List.length_range]
  omega

end StylesheetBuild.Directive
