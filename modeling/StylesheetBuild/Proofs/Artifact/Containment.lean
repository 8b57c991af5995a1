import StylesheetBuild.Proofs.Artifact.Mirroring
import StylesheetBuild.Proofs.Artifact.Segments

/-!
# Artifacts below their source directory

A relative template without a step up leads to a place below the source directory. Folders, a slash
and a file name or an extension are put into it on the way; what is carried through these changes is
that the text stays relative and that no folder in it is `..`. The last segment needs no care before
the end, since whatever completes it is too long to be `..`.

The empty template is the exception. Folders put under it begin with a slash, so they lead to the
root and not to the source directory.
-/

namespace StylesheetBuild.Artifact

open StylesheetBuild.Path

/-- A relative text with no step up but perhaps its last one. -/
structure Descends (cs : List Char) : Prop where
  relative : (ofChars cs).isAbsolute = false
  noParent : .parent ∉ (ofChars (folderText cs)).steps

theorem steps_eq_folderText_append (cs : List Char) :
    (ofChars cs).steps =
      (ofChars (folderText cs)).steps ++ (Component.ofSegment? (leafText cs)).toList := by
  conv_lhs => rw [← folderText_append_leafText cs]
  rw [(isFolderText_folderText cs).steps_append, steps_of_noSlash (noSlash_leafText cs)]

theorem cut_append {segment : List Char} (h : '/' ∉ segment) (cs : List Char) :
    folderText (cs ++ segment) = folderText cs ∧ leafText (cs ++ segment) = leafText cs ++ segment := by
  have hFolder := isFolderText_folderText cs
  have hLeaf : '/' ∉ leafText cs ++ segment := by
    rw [List.mem_append, not_or]
    exact ⟨noSlash_leafText cs, h⟩
  have hWhole : cs ++ segment = folderText cs ++ (leafText cs ++ segment) := by
    rw [← List.append_assoc, folderText_append_leafText]
  rw [hWhole]
  exact ⟨folderText_append hFolder hLeaf, leafText_append hFolder hLeaf⟩

namespace Descends

variable {cs : List Char}

theorem of_no_parent (hRelative : (ofChars cs).isAbsolute = false)
    (hParent : .parent ∉ (ofChars cs).steps) : Descends cs := by
  refine ⟨hRelative, fun hMember => hParent ?_⟩
  rw [steps_eq_folderText_append]
  exact List.mem_append_left _ hMember

theorem no_parent_of_leaf (h : Descends cs) (hLeaf : leafText cs ≠ ['.', '.']) :
    .parent ∉ (ofChars cs).steps := by
  rw [steps_eq_folderText_append, List.mem_append, not_or]
  refine ⟨h.noParent, ?_⟩
  rw [Option.mem_toList, ofSegment?_eq_parent_iff]
  exact hLeaf

theorem append_noSlash (h : Descends cs) {segment : List Char} (hSegment : '/' ∉ segment) :
    Descends (cs ++ segment) := by
  have hHead : segment.head? ≠ some '/' := fun hHead => hSegment (List.mem_of_mem_head? hHead)
  refine ⟨?_, ?_⟩
  · rw [isAbsolute_append (.inr hHead), h.relative]
  · rw [(cut_append hSegment cs).1]
    exact h.noParent

theorem no_parent_append_name (h : Descends cs) {name : String} (hName : IsName name) :
    .parent ∉ (ofChars (cs ++ name.toList)).steps := by
  apply (h.append_noSlash hName.2.2).no_parent_of_leaf
  rw [(cut_append hName.2.2 cs).2]
  exact append_name_ne_parent hName _

theorem append_folders (h : Descends cs) {names : List String} (hNames : ∀ name ∈ names, IsName name)
    (hSome : names ≠ []) : Descends (cs ++ foldersText names) := by
  obtain ⟨first, rest, rfl⟩ := List.exists_cons_of_ne_nil hSome
  have hFirst := hNames first (by simp)
  have hText : cs ++ foldersText (first :: rest) =
      (cs ++ first.toList) ++ '/' :: (foldersText rest ++ []) := by simp [foldersText]
  apply of_no_parent
  · rw [isAbsolute_append (.inr ?_), h.relative]
    rw [foldersText, List.flatMap_cons, List.append_assoc]
    exact head?_append_ne_slash hFirst _
  · rw [hText, steps_append_slash, steps_foldersText fun name hName => hNames name (by simp [hName]),
      steps_ofChars_nil, List.append_nil, List.mem_append, not_or]
    exact ⟨h.no_parent_append_name hFirst, by simp⟩

theorem append_slash (h : Descends cs) (hParent : .parent ∉ (ofChars cs).steps) (hSome : cs ≠ []) :
    Descends (cs ++ ['/']) := by
  apply of_no_parent
  · rw [isAbsolute_append (.inl hSome), h.relative]
  · rw [steps_append_slash, steps_ofChars_nil, List.append_nil]
    exact hParent

theorem of_append_noSlash {segment : List Char} (hSegment : '/' ∉ segment)
    (h : Descends (cs ++ segment)) : Descends cs := by
  have hHead : segment.head? ≠ some '/' := fun hHead => hSegment (List.mem_of_mem_head? hHead)
  obtain ⟨hRelative, hParent⟩ := h
  rw [isAbsolute_append (.inr hHead)] at hRelative
  rw [(cut_append hSegment cs).1] at hParent
  exact ⟨hRelative, hParent⟩

/-- Putting folders into the text keeps it below, unless there is no text that they could follow. -/
theorem keepFolders (h : Descends cs) (hParent : .parent ∉ (ofChars cs).steps)
    {names : List String} (hNames : ∀ name ∈ names, IsName name) (hSome : cs = [] → names = []) :
    Descends (Artifact.keepFolders cs (foldersText names)) := by
  by_cases hEmpty : names = []
  · rw [hEmpty]
    exact h
  have hFolders := foldersText_ne_nil hEmpty
  by_cases hFolder : isFolder cs = true
  · rw [keepFolders_of_folder hFolder]
    exact h.append_folders hNames hEmpty
  rw [Bool.not_eq_true] at hFolder
  cases hExtension : hasExtension cs with
  | false =>
    rw [keepFolders_of_no_extension hFolder hExtension hFolders]
    exact (h.append_slash hParent fun hNil => hEmpty (hSome hNil)).append_folders hNames hEmpty
  | true =>
    rw [keepFolders_of_extension hFolder hExtension hFolders]
    obtain ⟨before, leaf, hText, hSplit, hBefore, hLeaf⟩ := exists_splitLeaf_eq cs
    have hNoSlash : '/' ∉ leaf := fun hSlash => hLeaf _ hSlash rfl
    rw [hSplit]
    rw [hText] at h
    exact ((h.of_append_noSlash hNoSlash).append_folders hNames hEmpty).append_noSlash hNoSlash

/-- A completed text has no step up at its end either: it ends in a name or has an extension. -/
theorem completeFile (h : Descends cs) {name extension : String}
    (hName : IsName (name ++ extension)) (hExtension : IsName extension) :
    (ofChars (Artifact.completeFile cs name.toList extension.toList)).isAbsolute = false ∧
      .parent ∉ (ofChars (Artifact.completeFile cs name.toList extension.toList)).steps := by
  unfold Artifact.completeFile
  split
  · rw [List.append_assoc, ← String.toList_append]
    exact ⟨(h.append_noSlash hName.2.2).relative, h.no_parent_append_name hName⟩
  split
  · exact ⟨(h.append_noSlash hExtension.2.2).relative, h.no_parent_append_name hExtension⟩
  · rename_i hHas
    refine ⟨h.relative, h.no_parent_of_leaf ?_⟩
    intro hDots
    apply hHas
    rw [← folderText_append_leafText cs, hDots, hasExtension_of_parent (isFolderText_folderText cs)]
    rfl

end Descends

/-! ## File names and extensions -/

theorem artifactExtension_ne_dots (o : Options) : o.artifactExtension ≠ ".." := by
  unfold Options.artifactExtension
  split
  · decide
  · rename_i e _
    split
    · decide
    · intro hDots
      have hRest : dropDots e.toList = ['.'] := by
        simpa using congrArg String.toList hDots
      have hFirst := List.head?_dropWhile_not (· == '.') e.toList
      rw [← dropDots, hRest] at hFirst
      simp at hFirst

section

variable {o : Options} (hLength : 2 ≤ o.artifactExtension.toList.length)
  (hSlash : '/' ∉ o.artifactExtension.toList)
include hLength hSlash

theorem isName_artifactExtension : IsName o.artifactExtension := by
  refine ⟨?_, artifactExtension_ne_dots o, hSlash⟩
  rw [← Bool.not_eq_true, isSilent_iff]
  rintro (hText | hText) <;> simp [hText] at hLength

theorem isName_sourceStem_append (source : Path) :
    IsName (sourceStem source ++ o.artifactExtension) := by
  rw [sourceStem, stem?]
  cases hName : source.fileName? with
  | none => simpa using isName_artifactExtension hLength hSlash
  | some name => exact isName_stem_append (isName_of_mem_steps (name_mem_steps hName)) hLength hSlash

end

/-! ## Artifacts -/

theorem components_folded [WorkingDirectory] {dir : Path} (h : dir.isAbsolute = true) :
    dir.folded.components = .root :: dir.foldedNames.map .name := by
  rw [folded_eq h, components_ofNames fun _ => isName_of_mem_foldedNames]

theorem isPrefix_components_resolve [WorkingDirectory] {dir : Path} (hDir : dir.isAbsolute = true)
    {cs : List Char}
    (hRelative : (ofChars cs).isAbsolute = false) (hParent : .parent ∉ (ofChars cs).steps) :
    dir.folded.components <+: (dir.resolve (ofChars cs)).components := by
  rw [components_folded hDir, components_resolve_ofChars hDir, namesAlong,
    foldl_walk_of_no_parent hParent, startNames, hRelative, if_neg Bool.false_ne_true, List.map_append,
    ← List.cons_append]
  exact List.prefix_append _ _

/-- A relative template without `..` leads below the source directory, except that the empty one
leads from the root into the kept folders where there are any. -/
theorem path_below_source [WorkingDirectory] {o : Options} {template : String} {dir : Path}
    (hTemplate : o.outputPath = some (.template template)) (hDir : dir.isAbsolute = true)
    (hLength : 2 ≤ o.artifactExtension.toList.length) (hSlash : '/' ∉ o.artifactExtension.toList)
    (source : Path) (root : Option Path)
    (hRelative : (ofChars (expandedTemplate o template source root)).isAbsolute = false)
    (hParent : .parent ∉ (ofChars (expandedTemplate o template source root)).steps) :
    (¬(expandedTemplate o template source root = [] ∧ keptNames o dir ≠ []) →
      dir.folded.components <+: (path o source dir root).components) ∧
    (expandedTemplate o template source root = [] → keptNames o dir ≠ [] →
      path o source dir root =
        ofNames (keptNames o dir ++ [sourceStem source ++ o.artifactExtension])) := by
  have hFile := isName_sourceStem_append hLength hSlash source
  have hKept : ∀ name ∈ keptNames o dir, IsName name := isName_of_mem_keptNames
  rw [path_of_template hTemplate, placeOfTemplate_eq]
  generalize expandedTemplate o template source root = expanded at *
  constructor
  · intro hSome
    have hDescends := (Descends.of_no_parent hRelative hParent).keepFolders hParent hKept
      fun hNil => by_contra fun hFolders => hSome ⟨hNil, hFolders⟩
    obtain ⟨hPlace, hDown⟩ := hDescends.completeFile hFile (isName_artifactExtension hLength hSlash)
    exact isPrefix_components_resolve hDir hPlace hDown
  · rintro rfl hFolders
    rw [keepFolders_of_no_extension rfl rfl (foldersText_ne_nil hFolders),
      completeFile_of_folder List.getLast?_concat, ← String.toList_append, resolve_ofChars hDir,
      namesAlong_append_names (isFolderText_concat []) hKept hFile]
    rfl

/-- The kept folders go between the backslash and the dots, which the extension then makes a name. -/
def backslashOptions : Options where
  outputPath := some (.template "\x7bname\x7d\\..")
  keepFolderStructure := some true

section

attribute [local instance] WorkingDirectory.root

theorem path_below_source_backslash :
    let p : Path := ⟨"/proj/less/ui/main.less"⟩
    let expanded := expandedTemplate backslashOptions "\x7bname\x7d\\.." p none
    p.directory.isAbsolute = true ∧ (ofChars expanded).isAbsolute = false ∧
      .parent ∉ (ofChars expanded).steps ∧
      path backslashOptions p p.directory none = ⟨"/proj/less/ui/main\\ui/...css"⟩ ∧
      p.directory.folded.components <+: (path backslashOptions p p.directory none).components := by
  intro p expanded
  have hDir : p.directory.isAbsolute = true := by decide +kernel
  have hRelative : (ofChars expanded).isAbsolute = false := by decide +kernel
  have hParent : .parent ∉ (ofChars expanded).steps := by decide +kernel
  have hSome : expanded ≠ [] := by decide +kernel
  refine ⟨hDir, hRelative, hParent, by decide +kernel, ?_⟩
  exact (path_below_source rfl hDir (by decide +kernel) (by decide +kernel) p none hRelative hParent).1
    fun hNil => hSome hNil.1

/-- Under nothing the kept folders start at the root. -/
def rootedFoldersOptions : Options where
  outputPath := some (.template "")
  keepFolderStructure := some true

theorem path_not_below_source_empty_template :
    let p : Path := ⟨"/proj/less/ui/main.less"⟩
    p.directory.isAbsolute = true ∧ p.stem? = some "main" ∧
      rootedFoldersOptions.artifactExtension = ".css" ∧
      expandedTemplate rootedFoldersOptions "" p none = [] ∧
      path rootedFoldersOptions p p.directory none = ⟨"/ui/main.css"⟩ ∧
      ¬p.directory.folded.components <+:
        (path rootedFoldersOptions p p.directory none).components := by
  decide +kernel

end

end StylesheetBuild.Artifact
