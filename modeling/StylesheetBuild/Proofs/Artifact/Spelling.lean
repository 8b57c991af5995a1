import StylesheetBuild.Proofs.Artifact.Placement

/-!
# Spellings of a source path

Two spellings of a source that fold to one path have one artifact, as long as the folders kept below
`less` are the same for both. Those are read off the directory as it is spelled, so that folders
which a `..` leaves again still count.
-/

namespace StylesheetBuild.Artifact

open StylesheetBuild.Path

variable {p : Path} {name : String}

/-- Without `..` a directory is spelled with the folders that it folds to. -/
theorem sourceFolders_directory_of_no_parent (hAbsolute : p.isAbsolute = true)
    (hName : p.fileName? = some name) (hParent : .parent ∉ p.steps) :
    sourceFolders p.directory = foldersBelow p.directory.foldedNames := by
  have hDirectory : p.directory.components <+: p.components := by
    rw [components_eq_concat hName]
    exact List.prefix_append _ _
  rw [components_eq_of_isAbsolute hAbsolute,
    components_eq_of_isAbsolute (isAbsolute_directory hAbsolute hName)] at hDirectory
  have hSteps : .parent ∉ p.directory.steps := fun hStep =>
    hParent (List.mem_of_ne_of_mem (by simp) (hDirectory.subset (List.mem_cons_of_mem _ hStep)))
  rw [sourceFolders, foldedNames_eq, foldl_walk_of_no_parent hSteps, List.nil_append]

/-- The artifact of a source is that of its folded path if no `..` is spelled, if no folders are
kept, or if the spelled directory has the same folders below `less` as the folded one. -/
theorem path_folded [WorkingDirectory] (o : Options) (root : Option Path)
    (hAbsolute : p.isAbsolute = true) (hName : p.fileName? = some name)
    (hSpelling : .parent ∉ p.steps ∨ ¬(o.hasTemplate = true ∧ o.keepsFolders = true) ∨
      sourceFolders p.directory = foldersBelow p.directory.foldedNames) :
    path o p p.directory root = path o p.folded p.folded.directory root := by
  have hFolded := liesIn_folded hAbsolute hName
  apply path_congr
  · rw [hName, hFolded.named]
  · exact isAbsolute_directory hAbsolute hName
  · exact hFolded.isAbsolute_directory
  · exact hFolded.foldedNames_directory.symm
  · intro hTemplate hKeep
    rw [sourceFolders_eq hFolded.components_directory]
    rcases hSpelling with hParent | hFree | hFolders
    · exact sourceFolders_directory_of_no_parent hAbsolute hName hParent
    · exact absurd ⟨hTemplate, hKeep⟩ hFree
    · exact hFolders

/-- Folders below `less` are kept under a folder beside it. -/
def mirroringOptions : Options where
  outputPath := some (.template "../css/")
  keepFolderStructure := some true

section

attribute [local instance] WorkingDirectory.root

/-- Neither a `..` above `less` nor anything silent below it matters. -/
theorem path_folded_climb_above_less :
    let p : Path := ⟨"/proj/old/../less/./ui//main.less"⟩
    p.isAbsolute = true ∧ p.fileName? = some "main.less" ∧
      sourceFolders p.directory = foldersBelow p.directory.foldedNames ∧
      path mirroringOptions p p.directory none =
        path mirroringOptions p.folded p.folded.directory none := by
  intro p
  have hAbsolute : p.isAbsolute = true := by decide +kernel
  have hName : p.fileName? = some "main.less" := by decide +kernel
  have hFolders : sourceFolders p.directory = foldersBelow p.directory.foldedNames := by
    decide +kernel
  exact ⟨hAbsolute, hName, hFolders,
    path_folded mirroringOptions none hAbsolute hName (.inr (.inr hFolders))⟩

/-- A folder below `less` that the spelling enters and leaves again is kept all the same. -/
theorem path_ne_folded_climb_below_less :
    let p : Path := ⟨"/proj/less/ui/../main.less"⟩
    p.isAbsolute = true ∧ p.fileName? = some "main.less" ∧ p.folded = ⟨"/proj/less/main.less"⟩ ∧
      path mirroringOptions p p.directory none = ⟨"/proj/css/ui/main.css"⟩ ∧
      path mirroringOptions p.folded p.folded.directory none = ⟨"/proj/css/main.css"⟩ := by
  decide +kernel

end

end StylesheetBuild.Artifact
