import Mathlib.Tactic.Common

/-!
# Slices by byte offsets

The part of a text between two offsets into its encoded bytes. There is one only where both offsets
are on character boundaries and in order; the offsets between the parts of a text always are.
-/

namespace StylesheetBuild.Text

/-- Nothing where an offset lies inside a character or past the end, or where the two are out of
order. -/
def slice? (s : String) (start stop : Nat) : Option String :=
  if h : String.Pos.Raw.IsValid s ⟨start⟩ ∧ String.Pos.Raw.IsValid s ⟨stop⟩ ∧ start ≤ stop then
    some (String.extract ⟨⟨start⟩, h.1⟩ ⟨⟨stop⟩, h.2.1⟩)
  else none

theorem slice?_append (before middle after : String) :
    slice? (before ++ middle ++ after) before.utf8ByteSize (before ++ middle).utf8ByteSize =
      some middle := by
  have hStart : String.Pos.Raw.IsValid (before ++ middle ++ after) ⟨before.utf8ByteSize⟩ :=
    String.Pos.Raw.isValid_iff_exists_append.mpr
      ⟨before, middle ++ after, String.append_assoc, rfl⟩
  have hStop : String.Pos.Raw.IsValid (before ++ middle ++ after) ⟨(before ++ middle).utf8ByteSize⟩ :=
    String.Pos.Raw.isValid_iff_exists_append.mpr ⟨before ++ middle, after, rfl, rfl⟩
  have hOrder : before.utf8ByteSize ≤ (before ++ middle).utf8ByteSize := by
    rw [String.utf8ByteSize_append]
    exact Nat.le_add_right _ _
  rw [slice?, dif_pos ⟨hStart, hStop, hOrder⟩]
  congr 1
  apply String.toByteArray_inj.mp
  change (before ++ middle ++ after).toByteArray.extract before.toByteArray.size
    (before ++ middle).toByteArray.size = middle.toByteArray
  rw [String.toByteArray_append, ByteArray.extract_append_size_left, String.toByteArray_append,
    ByteArray.size_append]
  exact ByteArray.extract_append_eq_right rfl rfl

theorem toList_append_singleton (text : String) (c : Char) :
    (text ++ String.singleton c).toList = text.toList ++ [c] := by
  simp

theorem utf8ByteSize_append_singleton (text : String) (c : Char) :
    (text ++ String.singleton c).utf8ByteSize = text.utf8ByteSize + c.utf8Size := by
  rw [String.utf8ByteSize_append, String.utf8ByteSize_singleton]

/-- The characters of a text that starts at the given offset, each with its own offset. -/
def charOffsets : Nat → List Char → List (Nat × Char)
  | _, [] => []
  | offset, c :: cs => (offset, c) :: charOffsets (offset + c.utf8Size) cs

end StylesheetBuild.Text
