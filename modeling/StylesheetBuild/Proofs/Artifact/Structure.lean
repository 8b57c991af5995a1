import StylesheetBuild.Proofs.Artifact.Segments

/-!
# Kept folder structure

With `keepFolderStructure` an expanded template stands for a folder and the name of a file. The kept
folders come between the two, as components of their own, whether the folder is spelled with a slash
at its end, goes up with `..` or is not there at all. A source that has no folders below `less` is
not affected by the flag.
-/

namespace StylesheetBuild.Artifact

open StylesheetBuild.Path

/-- The folder under which the kept folders go, and the file in them. A template that ends in a slash
or has no extension names the folder only. -/
def keptPlace (expanded defaultName : List Char) : List Char × List Char :=
  if expanded.getLast? = some '/' ∨ (ofChars expanded).extension? = none then
    (expanded, defaultName)
  else (folderText expanded, leafText expanded)

theorem splitLeaf_of_noBackslash {expanded : List Char} (h : '\\' ∉ expanded) :
    splitLeaf expanded = (folderText expanded, leafText expanded) := by
  have hWhole := folderText_append_leafText expanded
  conv_lhs => rw [← hWhole]
  apply splitLeaf_append
  · intro c hc
    rw [isFolderText_folderText expanded c hc]
    rfl
  · rw [no_separator_iff]
    exact ⟨noSlash_leafText expanded, fun hLeaf => h (hWhole ▸ List.mem_append_right _ hLeaf)⟩

/-! ## Sources with and without folders below `less` -/

/-- The ordinary segments of a path, those that a `..` leaves again included. -/
def ordinaryNames (p : Path) : List String :=
  p.steps.filterMap Component.name?

theorem sourceFolders_eq_of_names {dir : Path} {above below : List String}
    (hNames : ordinaryNames dir = above ++ keptRoot :: below) (hAbove : keptRoot ∉ above) :
    sourceFolders dir = below := by
  rw [sourceFolders, ← ordinaryNames, hNames, foldersBelow_eq hAbove]

theorem foldersBelow_eq_nil {names : List String}
    (h : keptRoot ∉ names ∨ ∃ above, keptRoot ∉ above ∧ names = above ++ [keptRoot]) :
    foldersBelow names = [] := by
  rcases h with hNone | ⟨above, hAbove, rfl⟩
  · have hOther : ∀ name ∈ names, (name != keptRoot) = true :=
      fun _ hName => bne_iff_ne.mpr (ne_of_mem_of_not_mem hName hNone)
    rw [foldersBelow, List.dropWhile_eq_nil_iff.mpr hOther, List.drop_nil]
  · exact foldersBelow_eq hAbove []

theorem path_congr_of_keptNames [WorkingDirectory] {o other : Options}
    (hPath : o.outputPath = other.outputPath)
    (hExtension : o.artifactExtension = other.artifactExtension)
    (hCss : o.usesCssFolder = other.usesCssFolder) {dir : Path}
    (hKept : keptNames o dir = keptNames other dir) (source : Path) (root : Option Path) :
    path o source dir root = path other source dir root := by
  have hPlace : ∀ template, placeOfTemplate o template source dir root =
      placeOfTemplate other template source dir root := by
    intro template
    rw [placeOfTemplate_eq, placeOfTemplate_eq, expandedTemplate, expandedTemplate, hExtension, hKept]
  unfold path
  simp only [hPath, hExtension, hCss, hPlace]

/-- A source that lies in the folders `below` the first `less` folder, and a template to keep them. -/
structure Keeps (o : Options) (template : String) (source dir : Path) (root : Option Path)
    (below : List String) : Prop where
  isTemplate : o.outputPath = some (.template template)
  keeps : o.keepsFolders = true
  isAbsolute : dir.isAbsolute = true
  lies : ∃ above, keptRoot ∉ above ∧ ordinaryNames dir = above ++ keptRoot :: below
  below_ne : below ≠ []
  expanded_ne : expandedTemplate o template source root ≠ []
  noBackslash : '\\' ∉ expandedTemplate o template source root

namespace Keeps

variable {o : Options} {template : String} {source dir : Path} {root : Option Path}
  {below : List String} (h : Keeps o template source dir root below)
include h

theorem keptNames_eq : keptNames o dir = below := by
  obtain ⟨above, hAbove, hNames⟩ := h.lies
  rw [keptNames, if_pos h.keeps, sourceFolders_eq_of_names hNames hAbove]

theorem isName_of_mem : ∀ name ∈ below, IsName name := by
  rw [← h.keptNames_eq]
  exact isName_of_mem_keptNames

/-- The folders stand between the folder and the file of the kept place. A folder without a slash at
its end gets one. -/
theorem exists_place_eq {folder : List Char} {leaf : String} (hLeaf : IsName leaf)
    (hPlace : keptPlace (expandedTemplate o template source root)
      (sourceStem source ++ o.artifactExtension).toList = (folder, leaf.toList)) :
    ∃ start, IsFolderText start ∧ namesAlong dir start = namesAlong dir folder ∧
      placeOfTemplate o template source dir root = start ++ (foldersText below ++ leaf.toList) := by
  have hBackslash := h.noBackslash
  have hSome := h.expanded_ne
  rw [placeOfTemplate_eq, h.keptNames_eq]
  generalize expandedTemplate o template source root = expanded at *
  by_cases hSlash : expanded.getLast? = some '/'
  · rw [keptPlace, if_pos (.inl hSlash), Prod.mk.injEq] at hPlace
    obtain ⟨rfl, hName⟩ := hPlace
    refine ⟨expanded, isFolderText_of_ends hSlash, rfl, ?_⟩
    rw [keepFolders_of_folder (isFolder_of_ends hSlash), completeFile_of_folder hSlash, ← hName,
      String.toList_append]
  have hFolder := isFolder_eq_false hSlash hBackslash
  cases hExtension : hasExtension expanded with
  | false =>
    have hNone : (ofChars expanded).extension? = none := by simpa [hasExtension] using hExtension
    rw [keptPlace, if_pos (.inr hNone), Prod.mk.injEq] at hPlace
    obtain ⟨rfl, hName⟩ := hPlace
    refine ⟨expanded ++ ['/'], isFolderText_concat expanded, namesAlong_append_slash hSome, ?_⟩
    rw [keepFolders_of_no_extension hFolder hExtension (foldersText_ne_nil h.below_ne),
      completeFile_of_folder List.getLast?_concat, ← hName, String.toList_append]
  | true =>
    have hKept : ¬(expanded.getLast? = some '/' ∨ (ofChars expanded).extension? = none) := by
      rintro (hEnd | hNone)
      · exact hSlash hEnd
      · simp [hasExtension, hNone] at hExtension
    rw [keptPlace, if_neg hKept, Prod.mk.injEq] at hPlace
    obtain ⟨rfl, hName⟩ := hPlace
    have hText := isFolderText_folderText expanded
    refine ⟨folderText expanded, hText, rfl, ?_⟩
    have hPlain : ∀ c ∈ leaf.toList, ¬isSeparator c := by
      refine no_separator_iff.mpr ⟨hLeaf.2.2, fun hMember => hBackslash ?_⟩
      rw [← folderText_append_leafText expanded, hName]
      exact List.mem_append_right _ hMember
    -- the file keeps its extension behind the folders, so nothing is added to it
    have hStays : hasExtension (folderText expanded ++ foldersText below ++ leaf.toList) = true := by
      rw [hasExtension_append (hText.append_foldersText below) hLeaf, ← hasExtension_append hText hLeaf,
        ← hName, folderText_append_leafText, hExtension]
    rw [keepFolders_of_extension hFolder hExtension (foldersText_ne_nil h.below_ne),
      splitLeaf_of_noBackslash hBackslash, hName, completeFile_eq_self _ (.inr hStays), List.append_assoc]
    rw [isFolder_append hLeaf.toList_ne_nil, isFolder_of_no_separator hPlain]

end Keeps

/-- Kept folders come between the folder and the file that a template stands for, as components of
their own. Without folders below `less` the flag makes no difference. -/
theorem path_keepFolderStructure [WorkingDirectory] (o : Options) (source dir : Path)
    (root : Option Path) :
    (∀ template below folder leaf, Keeps o template source dir root below → IsName leaf →
      keptPlace (expandedTemplate o template source root)
        (sourceStem source ++ o.artifactExtension).toList = (folder, leaf.toList) →
      (path o source dir root).components =
        (dir.resolve (ofChars folder)).components ++ (below ++ [leaf]).map .name) ∧
    ((keptRoot ∉ ordinaryNames dir ∨
        ∃ above, keptRoot ∉ above ∧ ordinaryNames dir = above ++ [keptRoot]) →
      ∀ keep, path { o with keepFolderStructure := keep } source dir root = path o source dir root) := by
  constructor
  · intro template below folder leaf h hLeaf hPlace
    obtain ⟨start, hStart, hNames, hText⟩ := h.exists_place_eq hLeaf hPlace
    rw [path_of_template h.isTemplate, hText, components_resolve_ofChars h.isAbsolute,
      namesAlong_append_names hStart h.isName_of_mem hLeaf, hNames,
      components_resolve_ofChars h.isAbsolute, List.map_append, List.cons_append]
  · intro hLess keep
    have hFolders : sourceFolders dir = [] := foldersBelow_eq_nil hLess
    apply path_congr_of_keptNames
    case hPath => rfl
    case hExtension => rfl
    case hCss => rfl
    case hKept => rw [keptNames, keptNames, hFolders, ite_self, ite_self]

/-- A folder with a dot in it, which a `..` leaves again. -/
def dottedFolderOptions : Options where
  outputPath := some (.template "../dist/v1.0/..")
  keepFolderStructure := some true

section

attribute [local instance] WorkingDirectory.root

theorem path_keepFolderStructure_dotted_folder :
    let p : Path := ⟨"/proj/less/./ui//../forms/main.less"⟩
    let q : Path := ⟨"/proj/less/main.less"⟩
    Keeps dottedFolderOptions "../dist/v1.0/.." p p.directory none ["ui", "forms"] ∧
      IsName "main.css" ∧
      keptPlace (expandedTemplate dottedFolderOptions "../dist/v1.0/.." p none)
        (sourceStem p ++ dottedFolderOptions.artifactExtension).toList =
        ("../dist/v1.0/..".toList, "main.css".toList) ∧
      (path dottedFolderOptions p p.directory none).components =
        .root :: ["proj", "less", "dist", "ui", "forms", "main.css"].map .name ∧
      ordinaryNames q.directory = ["proj"] ++ [keptRoot] ∧
      path { dottedFolderOptions with keepFolderStructure := none } q q.directory none =
        path dottedFolderOptions q q.directory none := by
  intro p q
  have hKeeps : Keeps dottedFolderOptions "../dist/v1.0/.." p p.directory none ["ui", "forms"] :=
    ⟨rfl, rfl, by decide +kernel, ⟨["proj"], by decide, by decide +kernel⟩, by decide,
      by decide +kernel, by decide +kernel⟩
  have hLeaf : IsName "main.css" := by decide
  have hPlace : keptPlace (expandedTemplate dottedFolderOptions "../dist/v1.0/.." p none)
      (sourceStem p ++ dottedFolderOptions.artifactExtension).toList =
      ("../dist/v1.0/..".toList, "main.css".toList) := by decide +kernel
  have hLast : ordinaryNames q.directory = ["proj"] ++ [keptRoot] := by decide +kernel
  refine ⟨hKeeps, hLeaf, hPlace, ?_, hLast, ?_⟩
  · rw [(path_keepFolderStructure dottedFolderOptions p p.directory none).1 _ _ _ _ hKeeps hLeaf hPlace]
    decide +kernel
  · exact (path_keepFolderStructure dottedFolderOptions q q.directory none).2
      (.inr ⟨["proj"], by decide, hLast⟩) none

end

end StylesheetBuild.Artifact
