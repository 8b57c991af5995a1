import StylesheetBuild.Compile.Pipeline
import StylesheetBuild.Proofs.Path.Route

/-!
# Sources as seen from the map

A source map names its sources as seen from the directory of the artifact. The way there is the
shortest route between two directories, and it ends in the folded directory of the source wherever
the artifact lies.
-/

namespace StylesheetBuild.SourceMapSettings

open StylesheetBuild.Path

theorem isAbsolute_directory_of_parent? {source : Path} (hAbsolute : source.isAbsolute = true)
    (hParent : source.parent?.isSome = true) : source.directory.isAbsolute = true := by
  obtain ⟨folder, hFolder⟩ := Option.isSome_iff_exists.mp hParent
  rw [directory, hFolder, Option.getD_some]
  exact (trunk_of_parent?_isPrefix hAbsolute hFolder).1

/-- Between paths that have an absolute form the relative path is the shortest route, and the root
path of a source map leads from the artifact to the source. -/
theorem relative_shortest_rootPath_leads [WorkingDirectory] :
    (∀ start goal : Path, start.isEmpty = false → goal.isEmpty = false →
      start.isAbsolute = true ∧ goal.isAbsolute = true ∨ WorkingDirectory.current.isOk = true →
      start.folded.IsCanonical ∧ goal.folded.IsCanonical ∧
        IsShortestRoute start.folded goal.folded (start.relative goal)) ∧
    ∀ (source css : Path) (embeds : Bool), source.isAbsolute = true →
      source.parent?.isSome = true →
      (css.directory.join (forArtifact source css embeds).rootPath).folded =
        source.directory.folded := by
  constructor
  · intro start goal hStart hGoal hForms
    have hStartForm : start.toAbsolute.isOk = true :=
      toAbsolute_isOk_iff.mpr ⟨hStart, hForms.imp_left And.left⟩
    have hGoalForm : goal.toAbsolute.isOk = true :=
      toAbsolute_isOk_iff.mpr ⟨hGoal, hForms.imp_left And.right⟩
    exact ⟨isCanonical_folded hStartForm, isCanonical_folded hGoalForm,
      isShortestRoute_relative hStartForm hGoalForm⟩
  · intro source css embeds hAbsolute hParent
    have hDirectory := isAbsolute_directory_of_parent? hAbsolute hParent
    dsimp only [forArtifact]
    rw [folded_join_relative css.directory (isOk_of_isAbsolute hDirectory)]

/-- Seen from `/home/me`, with relative paths on both sides. -/
theorem relative_shortest_rootPath_leads_winding :
    let _ : WorkingDirectory := .of ⟨"/home/me"⟩ (by decide +kernel) (by decide +kernel)
    let start : Path := ⟨"a/../b/./c//"⟩
    let goal : Path := ⟨"../you//d/../e"⟩
    let source : Path := ⟨"/proj/less/../ui//main.less"⟩
    let css : Path := ⟨"css/../dist/main.css"⟩
    start.isEmpty = false ∧ goal.isEmpty = false ∧ WorkingDirectory.current.isOk = true ∧
      start.folded = ⟨"/home/me/b/c"⟩ ∧ start.relative goal = ⟨"../../../you/e"⟩ ∧
      IsShortestRoute start.folded goal.folded (start.relative goal) ∧
      (⟨".."⟩ : Path).relative ⟨"."⟩ = ⟨"me"⟩ ∧
      source.isAbsolute = true ∧ source.parent?.isSome = true ∧
      (forArtifact source css false).rootPath = ⟨"../../../proj/ui"⟩ ∧
      (css.directory.join (forArtifact source css false).rootPath).folded =
        source.directory.folded := by
  intro _ start goal source css
  have hStart : start.isEmpty = false := by decide +kernel
  have hGoal : goal.isEmpty = false := by decide +kernel
  have hHere : WorkingDirectory.current.isOk = true := rfl
  have hAbsolute : source.isAbsolute = true := by decide +kernel
  have hParent : source.parent?.isSome = true := by decide +kernel
  obtain ⟨hRoutes, hLeads⟩ := relative_shortest_rootPath_leads
  obtain ⟨-, -, hRoute⟩ := hRoutes start goal hStart hGoal (.inr hHere)
  exact ⟨hStart, hGoal, hHere, by decide +kernel, by decide +kernel, hRoute, by decide +kernel,
    hAbsolute, hParent, by decide +kernel, hLeads source css false hAbsolute hParent⟩

end StylesheetBuild.SourceMapSettings
