import StylesheetBuild.Proofs.Directive.Positions
import StylesheetBuild.Proofs.Text.Slices

/-!
# Entries as slices of a line

The entries of a line once more, as one pass over its characters that keeps the byte offset of the
current entry and slices the line at every cut. No slice can fail: what has been passed consists of
finished entries and the current one, and the two meet between characters.
-/

namespace StylesheetBuild.Directive

open Text

/-- The entries cut off so far, the quote that is open, and the offset at which the current entry
starts. -/
structure SliceState where
  slices : List String := []
  quote : Option Char := none
  start : Nat := 0

/-- Passes a character, which stands at the given offset of the line. -/
def SliceState.next? (line : String) (s : SliceState) : Nat × Char → Option SliceState
  | (offset, c) =>
    if s.quote = none ∧ c = ',' then do
      let entry ← slice? line s.start offset
      some ⟨s.slices ++ [entry], none, offset + 1⟩
    else some { s with quote := nextQuote s.quote c }

/-- Nothing if one of the slices fails. -/
def slicedEntries? (line : String) : Option (List String) := do
  let s ← (charOffsets 0 line.toList).foldlM (SliceState.next? line) {}
  let last ← slice? line s.start line.utf8ByteSize
  some (s.slices ++ [last])

namespace SliceState

/-- The state behind a text that consists of finished entries, with their commas, and the current
entry. -/
structure Behind (s : SliceState) (finished current : String) : Prop where
  entries_eq : entries (finished ++ current).toList = (s.slices ++ [current]).map String.toList
  quote_eq : s.quote = openQuote (finished ++ current).toList
  start_eq : s.start = finished.utf8ByteSize

theorem behind_empty : Behind {} "" "" := by
  constructor <;> rfl

variable {s : SliceState} {finished current line : String}

theorem Behind.cut {rest : String} (h : s.Behind finished current) (hOutside : s.quote = none)
    (hLine : line = finished ++ current ++ rest) :
    s.next? line ((finished ++ current).utf8ByteSize, ',') =
        some ⟨s.slices ++ [current], none, (finished ++ current).utf8ByteSize + 1⟩ ∧
      Behind ⟨s.slices ++ [current], none, (finished ++ current).utf8ByteSize + 1⟩
        (finished ++ current ++ String.singleton ',') "" := by
  have hSlice : slice? line s.start (finished ++ current).utf8ByteSize = some current := by
    rw [hLine, h.start_eq]
    exact slice?_append finished current rest
  have hClosed : openQuote (finished ++ current).toList = none := by rw [← h.quote_eq, hOutside]
  obtain ⟨init, last, hText, hNext⟩ := exists_entries_concat (finished ++ current).toList
  constructor
  · rw [next?, if_pos ⟨hOutside, rfl⟩, hSlice]
    rfl
  constructor
  case entries_eq =>
    rw [String.append_empty, toList_append_singleton, hNext, if_pos ⟨hClosed, rfl⟩, ← hText,
      h.entries_eq]
    simp
  case quote_eq =>
    rw [String.append_empty, toList_append_singleton, openQuote_concat, hClosed]
    rfl
  case start_eq =>
    rw [utf8ByteSize_append_singleton]
    rfl

theorem Behind.pass {c : Char} (h : s.Behind finished current) (hStays : ¬(s.quote = none ∧ c = ',')) :
    Behind { s with quote := nextQuote s.quote c } finished (current ++ String.singleton c) := by
  obtain ⟨init, last, hText, hNext⟩ := exists_entries_concat (finished ++ current).toList
  have hEntries := h.entries_eq
  rw [hText, List.map_append] at hEntries
  obtain ⟨rfl, hLast⟩ := List.append_inj' hEntries rfl
  have hCurrent : last = current.toList := (List.cons.inj hLast).1
  constructor
  case entries_eq =>
    rw [← String.append_assoc, toList_append_singleton, hNext, ← h.quote_eq, if_neg hStays,
      List.map_append, hCurrent, ← toList_append_singleton]
    rfl
  case quote_eq =>
    rw [← String.append_assoc, toList_append_singleton, openQuote_concat, ← h.quote_eq]
  case start_eq => exact h.start_eq

theorem Behind.next {c : Char} {rest : String} (h : s.Behind finished current)
    (hLine : line = finished ++ current ++ rest) :
    ∃ s' finished' current', s.next? line ((finished ++ current).utf8ByteSize, c) = some s' ∧
      s'.Behind finished' current' ∧
      finished' ++ current' = finished ++ current ++ String.singleton c := by
  by_cases hCut : s.quote = none ∧ c = ','
  · obtain ⟨hOutside, rfl⟩ := hCut
    obtain ⟨hNext, hBehind⟩ := h.cut hOutside hLine
    exact ⟨_, _, "", hNext, hBehind, String.append_empty⟩
  · exact ⟨_, finished, _, if_neg hCut, h.pass hCut, String.append_assoc.symm⟩

/-- The pass over the rest of a line never fails, and in the end it is behind the whole line. -/
theorem Behind.run (rest : List Char) (h : s.Behind finished current)
    (hLine : line = finished ++ current ++ String.ofList rest) :
    ∃ s' finished' current',
      (charOffsets (finished ++ current).utf8ByteSize rest).foldlM (next? line) s = some s' ∧
      s'.Behind finished' current' ∧ finished' ++ current' = line := by
  induction rest generalizing s finished current with
  | nil => exact ⟨s, finished, current, rfl, h, by rw [hLine]; exact String.append_empty.symm⟩
  | cons c rest ih =>
    obtain ⟨s', finished', current', hStep, hBehind, hPassed⟩ := h.next (c := c) hLine
    have hSize : (finished' ++ current').utf8ByteSize =
        (finished ++ current).utf8ByteSize + c.utf8Size := by
      rw [hPassed, utf8ByteSize_append_singleton]
    have hRest : line = finished' ++ current' ++ String.ofList rest := by
      rw [hLine, hPassed]
      apply String.toList_inj.mp
      simp
    obtain ⟨s'', finished'', current'', hRun, hEnd⟩ := ih hBehind hRest
    refine ⟨s'', finished'', current'', ?_, hEnd⟩
    rw [charOffsets, List.foldlM_cons, hStep, ← hSize]
    exact hRun

end SliceState

theorem slicedEntries?_eq (line : String) :
    ∃ parts, slicedEntries? line = some parts ∧ parts.map String.toList = entries line.toList := by
  have hLine : line = "" ++ "" ++ String.ofList line.toList := by simp
  obtain ⟨s, finished, current, hRun, hBehind, hWhole⟩ :=
    SliceState.behind_empty.run line.toList hLine
  have hSlice := slice?_append finished current ""
  rw [String.append_empty, ← hBehind.start_eq, hWhole] at hSlice
  refine ⟨s.slices ++ [current], ?_, ?_⟩
  · have hState : (charOffsets 0 line.toList).foldlM (SliceState.next? line) {} = some s := hRun
    rw [slicedEntries?, hState]
    simp only [Option.bind_eq_bind, Option.bind_some, hSlice]
  · rw [← hBehind.entries_eq, hWhole]

/-- Slicing a line never fails, it loses nothing but the commas that it cuts at, and these are the
commas outside quotes. -/
theorem slicedEntries?_cut (line : String) :
    ∃ parts, slicedEntries? line = some parts ∧ parts.map String.toList = entries line.toList ∧
      ",".intercalate parts = line ∧
      parts.length = (outsideCommas line.toList).length + 1 ∧
      cutPositions (parts.map String.toList) = outsideCommas line.toList := by
  obtain ⟨parts, hSliced, hParts⟩ := slicedEntries?_eq line
  refine ⟨parts, hSliced, hParts, ?_, ?_, ?_⟩
  · rw [← String.toList_inj, String.toList_intercalate, hParts]
    exact intercalate_entries line.toList
  · rw [← length_entries, ← hParts, List.length_map]
  · rw [hParts, cutPositions_entries]

end StylesheetBuild.Directive
