import StylesheetBuild.Proofs.Artifact.Mirroring
import StylesheetBuild.Proofs.Artifact.Segments
import StylesheetBuild.Proofs.Path.Absolute

/-!
# Artifacts that overwrite their source

Without a template an artifact is called after its source, with the artifact extension in place of
what the source's own name has from its last dot on. A name is its stem and that suffix, so beside
its source the artifact takes the place of the source just when the two suffixes are equal. In the
folder for artifacts it never does, not even where stem and extension make no ordinary name.
-/

namespace StylesheetBuild.Path

/-- The part of the file name from the dot that starts its extension on, empty without extension. -/
def suffix (p : Path) : String :=
  (p.extension?.map ("." ++ ·)).getD ""

theorem splitExtension_append (name : List Char) :
    (splitExtension name).1 ++ ((splitExtension name).2.map ('.' :: ·)).getD [] = name := by
  unfold splitExtension
  split
  · simp
  · simp
  · rename_i dot before _ hRest
    have hFirst := List.head?_dropWhile_not (· != '.') name.reverse
    have hDot : dot = '.' := by simpa [hRest] using hFirst
    have hWhole := List.takeWhile_append_dropWhile (p := (· != '.')) (l := name.reverse)
    rw [hRest, hDot] at hWhole
    apply List.reverse_inj.mp
    conv_rhs => rw [← hWhole]
    simp

theorem stem_append_suffix {p : Path} {name : String} (h : p.fileName? = some name) :
    p.stem?.getD "" ++ p.suffix = name := by
  have hWhole := splitExtension_append name.toList
  apply String.toList_inj.mp
  rw [stem?, suffix, extension?, h]
  conv_rhs => rw [← hWhole]
  cases hExtension : (splitExtension name.toList).2 <;> simp [hExtension]

/-- A path that never goes up lies in the folders that its directory folds to. -/
theorem liesIn_of_no_parent {p : Path} {name : String} (hAbsolute : p.isAbsolute = true)
    (hName : p.fileName? = some name) (hParent : .parent ∉ p.steps) :
    LiesIn p p.directory.foldedNames name := by
  have hDirectory := not_parent_mem_directory hParent
  rw [LiesIn, components_eq_concat hName,
    components_eq_of_isAbsolute (isAbsolute_directory hAbsolute hName), foldedNames_eq,
    foldl_walk_of_no_parent hDirectory, List.nil_append, List.map_append,
    map_name_of_no_parent hDirectory]
  rfl

/-- A resolved path is that of a file just when it leads to the file's names. -/
theorem resolve_same_iff [WorkingDirectory] {dir p : Path} (hDir : dir.isAbsolute = true)
    {folders : List String} {file : String} (h : LiesIn p folders file) (cs : List Char) :
    (dir.resolve (ofChars cs)).same p = true ↔ namesAlong dir cs = folders ++ [file] := by
  rw [same, beq_iff_eq, key, key, components_resolve_ofChars hDir, h, List.cons.injEq,
    and_iff_right rfl]
  exact (List.map_injective_iff.mpr fun _ _ => Component.name.inj).eq_iff

end StylesheetBuild.Path

namespace StylesheetBuild.Artifact

open StylesheetBuild.Path

section

variable {source : Path} {folders : List String} {file : String} (h : LiesIn source folders file)
include h

theorem noSlash_defaultName {extension : String} (hSlash : '/' ∉ extension.toList) :
    '/' ∉ (sourceStem source ++ extension).toList := by
  rw [String.toList_append, List.mem_append, not_or, sourceStem_eq h, String.toList_ofList]
  exact ⟨fun hStem => h.isName_file.2.2 ((splitExtension_isPrefix _).subset hStem), hSlash⟩

/-- Beside its source the artifact takes the place of the source just when it has its name. -/
theorem beside_same_iff [WorkingDirectory] {leaf : String} (hSlash : '/' ∉ leaf.toList) :
    (source.directory.resolve ⟨leaf⟩).same source = true ↔ leaf = file := by
  have hFolder : IsFolderText [] := by simp [IsFolderText]
  have hStart : namesAlong source.directory ([] ++ file.toList) = folders ++ [file] := by
    rw [namesAlong_append_name hFolder h.isName_file]
    congr 1
    exact h.foldedNames_directory
  rw [← ofChars_chars ⟨leaf⟩, resolve_same_iff h.isAbsolute_directory h, ← hStart, chars]
  constructor
  · intro hSame
    exact String.toList_inj.mp (eq_of_namesAlong_append_name hFolder hSlash h.isName_file hSame)
  · rintro rfl
    rfl

/-- In the folder for artifacts nothing that starts with the stem of the source takes its place. -/
theorem inCssFolder_not_same [WorkingDirectory] {base : Path} (hBase : base.isAbsolute = true)
    (hNames : base.foldedNames = folders ++ [cssFolder]) {extension : String}
    (hSlash : '/' ∉ extension.toList) :
    (base.resolve ⟨sourceStem source ++ extension⟩).same source = false := by
  have hFolder : IsFolderText [] := by simp [IsFolderText]
  have hStart : namesAlong base [] = folders ++ [cssFolder] := hNames
  rw [← ofChars_chars ⟨sourceStem source ++ extension⟩, ← Bool.not_eq_true,
    resolve_same_iff hBase h, chars]
  intro hSame
  rcases segment_cases (noSlash_defaultName h hSlash) with hSilent | hParent | ⟨name, hName, hText⟩
  case inl =>
    -- The artifact would be the folder and the source be called like it, but then `css` is the stem.
    have hFile : namesAlong base ([] ++ (sourceStem source ++ extension).toList) = namesAlong base [] :=
      namesAlong_append_silent hFolder hSilent
    rw [List.nil_append, hSame, hStart, List.append_cancel_left_eq, List.singleton_inj] at hFile
    have hStem : sourceStem source = cssFolder := by
      rw [sourceStem_eq h, hFile]
      decide
    rw [hStem, String.toList_append] at hSilent
    rcases hSilent with hNone | hDot
    · exact absurd hNone (by simp [cssFolder])
    · exact absurd hDot (by simp [cssFolder])
  case inr.inl =>
    rw [hParent, ← List.nil_append ['.', '.'], namesAlong_append_parent hFolder, hStart] at hSame
    simp at hSame
  case inr.inr =>
    rw [hText, ← List.nil_append name.toList, namesAlong_append_name hFolder hName, hStart] at hSame
    simp at hSame

end

/-- Without a template an artifact overwrites its source just when it is put beside it and the
extension of artifacts is the source's own suffix. -/
theorem path_same_source_iff [WorkingDirectory] {o : Options} {source : Path} {name : String}
    (hTemplate : o.hasTemplate = false) (hSlash : '/' ∉ o.artifactExtension.toList)
    (hAbsolute : source.isAbsolute = true) (hParent : .parent ∉ source.steps)
    (hName : source.fileName? = some name) (root : Option Path) :
    (path o source source.directory root).same source = true ↔
      o.usesCssFolder = false ∧ o.artifactExtension = source.suffix := by
  have hLies := liesIn_of_no_parent hAbsolute hName hParent
  rw [path_of_no_template hTemplate]
  cases o.usesCssFolder with
  | true =>
    have hBase := isAbsolute_joinText hLies.isAbsolute_directory cssFolder
    have hNames := foldedNames_joinText source.directory isName_cssFolder
    simp [inCssFolder_not_same hLies hBase hNames hSlash]
  | false =>
    have hStem : sourceStem source ++ source.suffix = name := stem_append_suffix hName
    rw [if_neg Bool.false_ne_true, beside_same_iff hLies (noSlash_defaultName hLies hSlash), ← hStem,
      String.append_right_inj, and_iff_right rfl]

section

attribute [local instance] WorkingDirectory.root

/-- A name that starts with two dots has the second one as its last: its stem is a dot. -/
theorem path_same_source_dotted :
    let o : Options := { outputPath := some .besideSource, outputExtension := some "..less" }
    let source : Path := ⟨"/proj//less/./..less"⟩
    o.hasTemplate = false ∧ '/' ∉ o.artifactExtension.toList ∧ source.isAbsolute = true ∧
      .parent ∉ source.steps ∧ source.fileName? = some "..less" ∧ source.suffix = ".less" ∧
      path o source source.directory none = ⟨"/proj/less/..less"⟩ ∧
      (path o source source.directory none).same source = true := by
  intro o source
  have hTemplate : o.hasTemplate = false := rfl
  have hSlash : '/' ∉ o.artifactExtension.toList := by decide +kernel
  have hAbsolute : source.isAbsolute = true := by decide +kernel
  have hParent : .parent ∉ source.steps := by decide +kernel
  have hName : source.fileName? = some "..less" := by decide +kernel
  have hSuffix : source.suffix = ".less" := by decide +kernel
  refine ⟨hTemplate, hSlash, hAbsolute, hParent, hName, hSuffix, by decide +kernel, ?_⟩
  apply (path_same_source_iff hTemplate hSlash hAbsolute hParent hName none).mpr
  exact ⟨rfl, by decide +kernel⟩

end

end StylesheetBuild.Artifact
