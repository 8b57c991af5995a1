import StylesheetBuild.Proofs.Path.Folding

/-!
# Absolute forms

Making a path absolute keeps its steps, while resolving it folds them. The two come to the same path
as long as no step goes up.
-/

namespace StylesheetBuild.Path

variable {p base : Path}

theorem map_name_of_no_parent (h : .parent ∉ p.steps) :
    (p.steps.filterMap Component.name?).map .name = p.steps := by
  have hNames : ∀ step ∈ p.steps, step.name?.map .name = some step := by
    intro step hStep
    rcases parent_or_name_of_mem_steps hStep with rfl | ⟨name, rfl⟩
    · exact absurd hStep h
    · rfl
  rw [List.map_filterMap, List.filterMap_congr hNames, List.filterMap_some]

/-- Only a path without steps up has nothing to fold. -/
theorem steps_eq_map_foldedNames_iff :
    p.steps = p.foldedNames.map .name ↔ .parent ∉ p.steps := by
  constructor
  · intro hSteps hParent
    rw [hSteps] at hParent
    simp at hParent
  · intro hParent
    rw [foldedNames_eq, foldl_walk_of_no_parent hParent, List.nil_append,
      map_name_of_no_parent hParent]

theorem parent_mem_steps_joinText_iff (hBase : .parent ∉ base.steps) (text : String) :
    .parent ∈ (base.joinText text).steps ↔ .parent ∈ (⟨text⟩ : Path).steps := by
  cases hAbsolute : (⟨text⟩ : Path).isAbsolute with
  | true => rw [joinText, join, if_pos hAbsolute]
  | false => simp [joinText, steps_join hAbsolute, hBase]

theorem fold_eq_self_iff (h : p.isAbsolute = true) :
    p.components = p.fold.components ↔ .parent ∉ p.steps := by
  rw [fold_of_isAbsolute h, components_ofNames fun _ => isName_of_mem_foldedNames,
    components_eq_of_isAbsolute h, List.cons.injEq, steps_eq_map_foldedNames_iff]
  simp

section

variable [WorkingDirectory]

/-- Making a path absolute keeps its steps, those up included. -/
theorem components_absolute
    (h : p.isAbsolute = true) : p.absolute.components = .root :: p.steps := by
  obtain ⟨whole, hWhole, hAbsolute, hSteps⟩ := toAbsolute_of_isAbsolute h
  rw [(toAbsolute_eq_ok hWhole).1, components_eq_of_isAbsolute hAbsolute, hSteps]

/-- Seen from a directory that is spelled without steps up, a path is made absolute in the way it is
resolved just when it has none either. -/
theorem components_absolute_joinText_iff {text : String} (hBase : .parent ∉ base.steps)
    (hForm : (base.joinText text).toAbsolute.isOk = true) :
    (base.joinText text).absolute.components = (base.resolve ⟨text⟩).components ↔
      .parent ∉ (⟨text⟩ : Path).steps := by
  obtain ⟨whole, hWhole⟩ := exists_toAbsolute hForm
  obtain ⟨hAbsolute, -, hRoot, start, hStart, hSteps⟩ := toAbsolute_eq_ok hWhole
  have hResolved : base.resolve ⟨text⟩ = whole.fold := by rw [← hAbsolute]; rfl
  rw [hAbsolute, hResolved, fold_eq_self_iff hRoot, hSteps, List.mem_append,
    parent_mem_steps_joinText_iff hBase, or_iff_right hStart.noParent]

end

theorem not_parent_mem_directory (h : .parent ∉ p.steps) : .parent ∉ p.directory.steps := by
  intro hParent
  have hMember : .parent ∈ p.directory.components := List.mem_append_right _ hParent
  rw [components_directory] at hMember
  rcases List.mem_append.mp (List.dropLast_subset _ hMember) with hLead | hSteps
  · rcases p.lead_cases with hNone | hRoot | hCurrent <;> simp_all
  · exact h hSteps

end StylesheetBuild.Path
