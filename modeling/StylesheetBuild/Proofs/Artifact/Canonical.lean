import StylesheetBuild.Proofs.Artifact.Segments
import StylesheetBuild.Proofs.Path.Canonical

/-!
# Canonical artifacts

Whatever the options say and however the source is spelled, an artifact path is written from names,
as long as the source directory is absolute. The source map adds letters to the last of those names
and so stays in the same directory.
-/

namespace StylesheetBuild.Artifact

open StylesheetBuild.Path

/-- Another file in the directory of an artifact. -/
structure LiesBeside [WorkingDirectory] (artifact other : Path) (name : String) : Prop where
  canonical : other.IsCanonical
  directory : other.parent? = artifact.parent?
  named : other.fileName? = some name
  apart : other.same artifact = false

theorem exists_path_eq_ofNames [WorkingDirectory] {dir : Path} (hDir : dir.isAbsolute = true)
    (o : Options) (source : Path) (root : Option Path) :
    ∃ names, (∀ name ∈ names, IsName name) ∧ path o source dir root = ofNames names := by
  by_cases hTemplate : o.hasTemplate = true
  · obtain ⟨template, hText⟩ := (hasTemplate_iff o).mp hTemplate
    rw [path_of_template hText, resolve_eq hDir]
    exact ⟨_, fun _ => isName_of_mem_walk, rfl⟩
  · rw [Bool.not_eq_true] at hTemplate
    have hBase : (if o.usesCssFolder then dir.joinText cssFolder else dir).isAbsolute = true := by
      split
      · exact isAbsolute_joinText hDir cssFolder
      · exact hDir
    rw [path_of_no_template hTemplate, resolve_eq hBase]
    exact ⟨_, fun _ => isName_of_mem_walk, rfl⟩

/-! ## The map beside an artifact -/

theorem isName_map {name : String} (h : IsName name) : IsName (name ++ ".map") := by
  have hMap : IsName ".map" := by decide
  have hName := isName_append h.2.2 hMap
  rwa [String.ofList_append, String.ofList_toList, String.ofList_toList] at hName

theorem joinSegments_concat_append (segments : List (List Char)) (last more : List Char) :
    joinSegments (segments ++ [last ++ more]) = joinSegments (segments ++ [last]) ++ more := by
  by_cases hSome : segments = []
  · simp [hSome, joinSegments]
  · rw [joinSegments_concat hSome, joinSegments_concat hSome, List.append_assoc, List.cons_append]

theorem sourceMapPath_ofNames (folders : List String) (name : String) :
    sourceMapPath (ofNames (folders ++ [name])) = ofNames (folders ++ [name ++ ".map"]) := by
  have hChars : ∀ last : String, (ofNames (folders ++ [last])).chars =
      '/' :: joinSegments (folders.map String.toList ++ [last.toList]) := by
    intro last
    simp [ofNames, chars, joinSegments]
  have hText : (sourceMapPath (ofNames (folders ++ [name]))).chars =
      (ofNames (folders ++ [name])).chars ++ ".map".toList := by
    simp [sourceMapPath, chars]
  rw [← ofChars_chars (sourceMapPath _), ← ofChars_chars (ofNames (folders ++ [name ++ ".map"])),
    hText, hChars, hChars, String.toList_append, joinSegments_concat_append, List.cons_append]

theorem liesBeside_sourceMapPath [WorkingDirectory] {names : List String}
    (hNames : ∀ name ∈ names, IsName name) {name : String} (hLast : names.getLast? = some name) :
    LiesBeside (ofNames names) (sourceMapPath (ofNames names)) (name ++ ".map") := by
  obtain ⟨folders, rfl⟩ := List.getLast?_eq_some_iff.mp hLast
  have hMap : ∀ other ∈ folders ++ [name ++ ".map"], IsName other := by
    intro other hOther
    rcases List.mem_append.mp hOther with hFolder | hFile
    · exact hNames other (List.mem_append_left _ hFolder)
    · rw [List.mem_singleton.mp hFile]
      exact isName_map (hNames name (by simp))
  rw [sourceMapPath_ofNames]
  constructor
  case canonical => exact isCanonical_ofNames hMap
  case directory => rw [parent?_ofNames hMap, parent?_ofNames hNames]; simp
  case named => rw [fileName?_ofNames hMap, List.getLast?_concat]
  case apart =>
    rw [← Bool.not_eq_true]
    intro hSame
    have hFile := List.append_cancel_left (names_eq_of_same hMap hNames hSame)
    have hLength := congrArg String.length (List.singleton_inj.mp hFile)
    simp at hLength

/-- Artifact paths are canonical, and the map of a file is a canonical path beside it. -/
theorem path_isCanonical [WorkingDirectory] {dir : Path} (hDir : dir.isAbsolute = true)
    (o : Options) (source : Path) (root : Option Path) :
    (path o source dir root).IsCanonical ∧
      ∀ name, (path o source dir root).fileName? = some name →
        LiesBeside (path o source dir root) (sourceMapPath (path o source dir root))
          (name ++ ".map") := by
  obtain ⟨names, hNames, hPath⟩ := exists_path_eq_ofNames hDir o source root
  rw [hPath]
  refine ⟨isCanonical_ofNames hNames, ?_⟩
  intro name hName
  rw [fileName?_ofNames hNames] at hName
  exact liesBeside_sourceMapPath hNames hName

/-- A template that climbs above the root and an extension that climbs back into its folder. -/
def windingOptions : Options where
  outputPath := some (.template "..//../../../$\x7bworkspaceRoot\x7d//./v1/$1\x7bext\x7d")
  outputExtension := some "css/..//.//main"

section

attribute [local instance] WorkingDirectory.root

theorem path_isCanonical_winding :
    let source : Path := ⟨"less/..//main.less"⟩
    let dir : Path := ⟨"/proj/../less//."⟩
    let artifact := path windingOptions source dir (some ⟨"/ws/../a"⟩)
    dir.isAbsolute = true ∧ artifact.fileName? = some "main" ∧ artifact = ⟨"/a/v1/main"⟩ ∧
      artifact.IsCanonical ∧ LiesBeside artifact (sourceMapPath artifact) ("main" ++ ".map") := by
  intro source dir artifact
  have hDir : dir.isAbsolute = true := by decide +kernel
  have hName : artifact.fileName? = some "main" := by decide +kernel
  obtain ⟨hCanonical, hMap⟩ := path_isCanonical hDir windingOptions source (some ⟨"/ws/../a"⟩)
  exact ⟨hDir, hName, by decide +kernel, hCanonical, hMap "main" hName⟩

end

end StylesheetBuild.Artifact
