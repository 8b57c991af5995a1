import StylesheetBuild.Proofs.Artifact.Leaf

/-!
# One segment behind a folder

A segment is silent, a step up or a name. Behind a folder it leads one name down at most, and only
if it is that name, so that names behind a folder are told apart by where they lead.
-/

namespace StylesheetBuild.Path

theorem ofSegment?_eq_parent_iff (segment : List Char) :
    Component.ofSegment? segment = some .parent ↔ segment = ['.', '.'] := by
  unfold Component.ofSegment?
  split
  · rename_i hSilent
    rcases hSilent with rfl | rfl <;> simp
  · split <;> simp_all

theorem append_name_ne_parent {name : String} (h : IsName name) (before : List Char) :
    before ++ name.toList ≠ ['.', '.'] := by
  intro hDots
  obtain ⟨hSilent, hParent, -⟩ := h
  rcases before with _ | ⟨c, _ | ⟨d, before⟩⟩
  · exact hParent (String.toList_inj.mp hDots)
  · rw [List.singleton_append, List.cons.injEq] at hDots
    rw [hDots.2] at hSilent
    cases hSilent
  · simp only [List.cons_append, List.cons.injEq, List.append_eq_nil_iff] at hDots
    rw [hDots.2.2.2] at hSilent
    cases hSilent

theorem isName_ofList {segment : List Char} (hSlash : '/' ∉ segment)
    (hOther : segment ≠ [] ∧ segment ≠ ['.'] ∧ segment ≠ ['.', '.']) :
    IsName (String.ofList segment) := by
  obtain ⟨hNil, hDot, hDots⟩ := hOther
  refine ⟨?_, ?_, ?_⟩
  · rw [String.toList_ofList, ← Bool.not_eq_true, isSilent_iff, not_or]
    exact ⟨hNil, hDot⟩
  · intro hParent
    exact hDots (by simpa using congrArg String.toList hParent)
  · rwa [String.toList_ofList]

theorem isName_append {before : List Char} (hSlash : '/' ∉ before) {name : String} (h : IsName name) :
    IsName (String.ofList (before ++ name.toList)) := by
  refine isName_ofList ?_ ⟨?_, ?_, append_name_ne_parent h before⟩
  · rw [List.mem_append, not_or]
    exact ⟨hSlash, h.2.2⟩
  · simp [h.toList_ne_nil]
  · intro hDot
    have hSilent := h.1
    obtain ⟨-, hText⟩ | ⟨-, hText⟩ := List.append_eq_singleton_iff.mp hDot <;>
      rw [hText] at hSilent <;> cases hSilent

theorem isName_of_backslash {segment : List Char} (hSlash : '/' ∉ segment) (h : '\\' ∈ segment) :
    IsName (String.ofList segment) := by
  refine isName_ofList hSlash ⟨?_, ?_, ?_⟩ <;> rintro rfl <;> simp at h

theorem isName_completed {stem extension : List Char} (hStem : stem ≠ []) (hSome : extension ≠ [])
    (hSlash : '/' ∉ stem ++ extension) :
    IsName (String.ofList (stem ++ extension ++ extension)) := by
  have hLong : 3 ≤ (stem ++ extension ++ extension).length := by
    have hStemLength := List.length_pos_iff.mpr hStem
    have hLength := List.length_pos_iff.mpr hSome
    rw [List.length_append, List.length_append]
    omega
  refine isName_ofList ?_ ⟨?_, ?_, ?_⟩
  · rw [List.mem_append, not_or]
    exact ⟨hSlash, fun hMember => hSlash (List.mem_append_right _ hMember)⟩
  all_goals
    intro hText
    rw [hText] at hLong
    simp at hLong

theorem segment_cases {segment : List Char} (hSlash : '/' ∉ segment) :
    (segment = [] ∨ segment = ['.']) ∨ segment = ['.', '.'] ∨
      ∃ name, IsName name ∧ segment = name.toList := by
  by_cases hSilent : segment = [] ∨ segment = ['.']
  · exact .inl hSilent
  by_cases hParent : segment = ['.', '.']
  · exact .inr (.inl hParent)
  rw [not_or] at hSilent
  refine .inr (.inr ⟨String.ofList segment, ?_, String.toList_ofList.symm⟩)
  exact isName_ofList hSlash ⟨hSilent.1, hSilent.2, hParent⟩

section

variable {dir : Path} {folder : List Char} (hFolder : IsFolderText folder)
include hFolder

theorem namesAlong_append_segment {segment : List Char} (hSlash : '/' ∉ segment) :
    namesAlong dir (folder ++ segment) =
      (Component.ofSegment? segment).toList.foldl walk (namesAlong dir folder) := by
  have hHead : segment.head? ≠ some '/' := fun hHead => hSlash (List.mem_of_mem_head? hHead)
  rw [namesAlong_append hFolder (.inr hHead), steps_of_noSlash hSlash]

theorem namesAlong_append_name {name : String} (hName : IsName name) :
    namesAlong dir (folder ++ name.toList) = namesAlong dir folder ++ [name] := by
  rw [namesAlong_append_segment hFolder hName.2.2, hName.ofSegment?]
  rfl

theorem namesAlong_append_silent {segment : List Char} (h : segment = [] ∨ segment = ['.']) :
    namesAlong dir (folder ++ segment) = namesAlong dir folder := by
  have hSlash : '/' ∉ segment := by rcases h with rfl | rfl <;> decide
  rw [namesAlong_append_segment hFolder hSlash, Component.ofSegment?, if_pos h]
  rfl

theorem namesAlong_append_parent :
    namesAlong dir (folder ++ ['.', '.']) = (namesAlong dir folder).dropLast :=
  namesAlong_append_segment hFolder (by decide)

/-- A segment leads one name down at most, and then it is that name. -/
theorem namesAlong_append_segment_cases (dir : Path) {segment : List Char} (hSlash : '/' ∉ segment) :
    (namesAlong dir (folder ++ segment)).length ≤ (namesAlong dir folder).length ∨
      namesAlong dir (folder ++ segment) = namesAlong dir folder ++ [String.ofList segment] := by
  rcases segment_cases hSlash with hSilent | rfl | ⟨name, hName, rfl⟩
  · rw [namesAlong_append_silent hFolder hSilent]
    exact .inl le_rfl
  · rw [namesAlong_append_parent hFolder, List.length_dropLast]
    exact .inl (Nat.sub_le _ 1)
  · rw [namesAlong_append_name hFolder hName, String.ofList_toList]
    exact .inr rfl

theorem eq_of_namesAlong_append_name {segment : List Char} (hSlash : '/' ∉ segment) {name : String}
    (hName : IsName name)
    (h : namesAlong dir (folder ++ segment) = namesAlong dir (folder ++ name.toList)) :
    segment = name.toList := by
  rw [namesAlong_append_name hFolder hName] at h
  rcases namesAlong_append_segment_cases hFolder dir hSlash with hShort | hLong
  · rw [h, List.length_append, List.length_singleton] at hShort
    omega
  · rw [hLong, List.append_cancel_left_eq, List.singleton_inj] at h
    rw [← h, String.toList_ofList]

theorem namesAlong_append_ne {segment more : List Char} (hSlash : '/' ∉ segment) (hMore : more ≠ [])
    (hName : IsName (String.ofList (segment ++ more))) :
    namesAlong dir (folder ++ (segment ++ more)) ≠ namesAlong dir (folder ++ segment) := by
  intro hSame
  rw [← String.toList_ofList (l := segment ++ more)] at hSame
  have hText := eq_of_namesAlong_append_name hFolder hSlash hName hSame.symm
  rw [String.toList_ofList, List.self_eq_append_right] at hText
  exact hMore hText

theorem namesAlong_append_folders {names : List String} (hNames : ∀ name ∈ names, IsName name) :
    namesAlong dir (folder ++ Artifact.foldersText names) = namesAlong dir folder ++ names := by
  have hHead : (Artifact.foldersText names).head? ≠ some '/' := by
    cases names with
    | nil => simp [Artifact.foldersText]
    | cons name names =>
      rw [Artifact.foldersText, List.flatMap_cons, List.append_assoc]
      exact head?_append_ne_slash (hNames name (by simp)) _
  have hSteps : (ofChars (Artifact.foldersText names)).steps = names.map .name := by
    rw [← List.append_nil (Artifact.foldersText names), Artifact.steps_foldersText hNames, steps_ofChars_nil,
      List.append_nil]
  rw [namesAlong_append hFolder (.inr hHead), hSteps, foldl_walk_names]

theorem namesAlong_append_names {names : List String} (hNames : ∀ name ∈ names, IsName name)
    {leaf : String} (hLeaf : IsName leaf) :
    namesAlong dir (folder ++ (Artifact.foldersText names ++ leaf.toList)) =
      namesAlong dir folder ++ (names ++ [leaf]) := by
  rw [← List.append_assoc, namesAlong_append_name (hFolder.append_foldersText names) hLeaf,
    namesAlong_append_folders hFolder hNames, List.append_assoc]

end

theorem namesAlong_congr_start {start other : List Char} (hStart : start.getLast? = some '/')
    (hOther : other.getLast? = some '/') (h : namesAlong dir start = namesAlong dir other)
    (after : List Char) : namesAlong dir (start ++ after) = namesAlong dir (other ++ after) := by
  rw [namesAlong_append (isFolderText_of_ends hStart) (.inl (ne_nil_of_ends hStart)),
    namesAlong_append (isFolderText_of_ends hOther) (.inl (ne_nil_of_ends hOther)), h]

end StylesheetBuild.Path
