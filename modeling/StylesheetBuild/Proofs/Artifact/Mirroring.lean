import StylesheetBuild.Proofs.Artifact.Leaf

/-!
# Mirrored folders

Under a folder template with `keepFolderStructure` the folders of a source below `less` are repeated
below the folder of the template. A relative template is read from the source directory, so that the
folders count twice there, once in the directory and once behind the template, and the `..` of the
template may eat into the first of the two but never into the second. Longer folders therefore give
longer paths, and sources in different folders have different artifacts.
-/

namespace StylesheetBuild.Artifact

open StylesheetBuild.Path

/-- Folders are kept below the folder that the template names. -/
structure Mirrors (o : Options) (template : String) : Prop where
  isTemplate : o.outputPath = some (.template template)
  keeps : o.keepsFolders = true
  endsInSlash : template.toList.getLast? = some '/'
  isPlain : ∀ placeholder ∈ placeholders, ¬placeholder <:+: template.toList

variable {o : Options} {template : String}

/-! ## Artifact names -/

theorem splitExtension_isPrefix (name : List Char) : (splitExtension name).1 <+: name := by
  unfold splitExtension
  split
  · exact List.prefix_refl name
  · exact List.prefix_refl name
  · rename_i dot before _ hSplit
    rw [← List.reverse_suffix, List.reverse_reverse]
    have hSuffix := List.dropWhile_suffix (l := name.reverse) (· != '.')
    rw [hSplit] at hSuffix
    exact (List.suffix_cons dot before).trans hSuffix

theorem splitExtension_ne_nil {name : List Char} (h : name ≠ []) : (splitExtension name).1 ≠ [] := by
  unfold splitExtension
  split
  · exact h
  · exact h
  · rename_i dot before hOther _
    simp only [ne_eq, List.reverse_eq_nil_iff]
    rintro rfl
    exact hOther rfl

/-- A stem with an extension of two characters is too long to be silent or `..`. -/
theorem isName_stem_append {name : String} (hName : IsName name) {extension : String}
    (hLength : 2 ≤ extension.toList.length) (hSlash : '/' ∉ extension.toList) :
    IsName (String.ofList (splitExtension name.toList).1 ++ extension) := by
  have hSome : name.toList ≠ [] := by
    intro hEmpty
    have hSilent := hName.1
    rw [hEmpty] at hSilent
    cases hSilent
  have hStem := List.length_pos_iff.mpr (splitExtension_ne_nil hSome)
  have hLong : 3 ≤ (String.ofList (splitExtension name.toList).1 ++ extension).toList.length := by
    rw [String.toList_append, String.toList_ofList, List.length_append]
    omega
  refine ⟨?_, ?_, ?_⟩
  · rw [← Bool.not_eq_true, isSilent_iff]
    rintro (hText | hText) <;> simp [hText] at hLong
  · intro hText
    rw [hText] at hLong
    simp at hLong
  · rw [String.toList_append, String.toList_ofList, List.mem_append, not_or]
    exact ⟨fun hStem => hName.2.2 ((splitExtension_isPrefix _).subset hStem), hSlash⟩

theorem sourceStem_eq {p : Path} {folders : List String} {file : String}
    (h : LiesIn p folders file) : sourceStem p = String.ofList (splitExtension file.toList).1 := by
  rw [sourceStem, stem?, h.named]
  rfl

theorem stem?_eq_sourceStem {p : Path} {folders : List String} {file : String}
    (h : LiesIn p folders file) : p.stem? = some (sourceStem p) := by
  rw [sourceStem_eq h, stem?, h.named]
  rfl

/-! ## Mirrored places -/

theorem Mirrors.place_eq (h : Mirrors o template) (source dir : Path)
    (root : Option Path) :
    placeOfTemplate o template source dir root =
      template.toList ++ (foldersText (sourceFolders dir) ++
        (sourceStem source ++ o.artifactExtension).toList) := by
  rw [placeOfTemplate_of_literal o h.endsInSlash h.isPlain, keptNames, if_pos h.keeps,
    String.toList_append]

/-- The steps to a mirrored artifact: those of the template, then the folders, then the file. -/
theorem Mirrors.steps_place (h : Mirrors o template) {source dir : Path}
    (hFile : IsName (sourceStem source ++ o.artifactExtension)) (root : Option Path) :
    (ofChars (placeOfTemplate o template source dir root)).steps =
      (ofChars template.toList).steps ++
        (sourceFolders dir ++ [sourceStem source ++ o.artifactExtension]).map .name := by
  obtain ⟨before, hBefore⟩ := List.getLast?_eq_some_iff.mp h.endsInSlash
  have hTemplate : (ofChars template.toList).steps = (ofChars before).steps := by
    rw [hBefore, steps_append_slash, steps_ofChars_nil, List.append_nil]
  rw [h.place_eq, hTemplate, hBefore, List.append_assoc, List.singleton_append,
    steps_append_slash, steps_foldersText fun _ => isName_of_mem_sourceFolders,
    hFile.steps_ofChars, List.map_append]
  rfl

theorem Mirrors.isAbsolute_place (h : Mirrors o template) (source dir : Path)
    (root : Option Path) :
    (ofChars (placeOfTemplate o template source dir root)).isAbsolute =
      (ofChars template.toList).isAbsolute := by
  obtain ⟨before, hBefore⟩ := List.getLast?_eq_some_iff.mp h.endsInSlash
  rw [h.place_eq, hBefore]
  cases before <;> simp [Path.isAbsolute, chars_ofChars]

/-- The names that a template is walked from, for a source in the folders `below`. -/
def mirrorStart (template : String) (above below : List String) : List String :=
  if (ofChars template.toList).isAbsolute then [] else above ++ keptRoot :: below

/-- A mirrored artifact ends in the folders and the file, behind a part in which only the number of
names that the template leaves to its start depends on the folders. -/
theorem Mirrors.exists_walk_eq (h : Mirrors o template)
    (hLength : 2 ≤ o.artifactExtension.toList.length) (hSlash : '/' ∉ o.artifactExtension.toList)
    {above : List String} (hAbove : keptRoot ∉ above) :
    ∃ (up : Nat) (down : List String), ∀ {p : Path} {below : List String} {file : String}
      (_ : LiesIn p (above ++ keptRoot :: below) file) (root : Option Path),
      (ofChars (placeOfTemplate o template p p.directory root)).steps.foldl walk
          (startNames p.directory (ofChars (placeOfTemplate o template p p.directory root))) =
        (mirrorStart template above below).take
            ((mirrorStart template above below).length - up) ++ down ++
          (below ++ [sourceStem p ++ o.artifactExtension]) := by
  obtain ⟨up, down, hWalk⟩ := exists_foldl_walk_eq (ofChars template.toList).steps
  refine ⟨up, down, ?_⟩
  intro p below file hp root
  have hFile : IsName (sourceStem p ++ o.artifactExtension) := by
    rw [sourceStem_eq hp]
    exact isName_stem_append hp.isName_file hLength hSlash
  have hStart : startNames p.directory (ofChars (placeOfTemplate o template p p.directory root)) =
      mirrorStart template above below := by
    rw [startNames, mirrorStart, h.isAbsolute_place, hp.foldedNames_directory]
  have hFolders : sourceFolders p.directory = below := by
    rw [sourceFolders_eq hp.components_directory, foldersBelow_eq hAbove]
  rw [hStart, h.steps_place hFile, List.foldl_append, hWalk, foldl_walk_names, hFolders]

/-- Sources below one `less` folder have one mirrored artifact exactly when they lie in the same
folders and have the same stem. -/
theorem mirrored_same_iff [WorkingDirectory] (h : Mirrors o template)
    (hLength : 2 ≤ o.artifactExtension.toList.length) (hSlash : '/' ∉ o.artifactExtension.toList)
    {p q : Path} {above s t : List String} {f g : String} (hAbove : keptRoot ∉ above)
    (hp : LiesIn p (above ++ keptRoot :: s) f) (hq : LiesIn q (above ++ keptRoot :: t) g)
    (root otherRoot : Option Path) :
    (path o p p.directory root).same (path o q q.directory otherRoot) = true ↔
      s = t ∧ p.stem? = q.stem? := by
  obtain ⟨up, down, hWalk⟩ := h.exists_walk_eq hLength hSlash hAbove
  rw [path_of_template h.isTemplate, path_of_template h.isTemplate]
  constructor
  · intro hSame
    have hNames := walk_eq_of_resolve_same hp.isAbsolute_directory hq.isAbsolute_directory hSame
    rw [hWalk hp root, hWalk hq otherRoot] at hNames
    -- the start is the same for both or grows with the folders: equal lengths need equal depths
    have hDepth : s.length = t.length := by
      have hLengths := congrArg List.length hNames
      unfold mirrorStart at hLengths
      split at hLengths <;> simp at hLengths <;> omega
    obtain ⟨-, hEnds⟩ := List.append_inj' hNames (by simp [hDepth])
    obtain ⟨hFolders, hFiles⟩ := List.append_inj' hEnds rfl
    have hStems : sourceStem p = sourceStem q :=
      (String.append_left_inj _).mp (List.singleton_inj.mp hFiles)
    exact ⟨hFolders, by rw [stem?_eq_sourceStem hp, stem?_eq_sourceStem hq, hStems]⟩
  · rintro ⟨rfl, hStem⟩
    have hStems : sourceStem p = sourceStem q := by rw [sourceStem, sourceStem, hStem]
    have hNames := hWalk hp root
    rw [hStems, ← hWalk hq otherRoot] at hNames
    rw [resolve_eq hp.isAbsolute_directory, resolve_eq hq.isAbsolute_directory, hNames]
    simp [same]

/-- A relative template that climbs further than the folders of some sources go down. -/
def climbingOptions : Options where
  outputPath := some (.template "../../../dist/./css/")
  keepFolderStructure := some true

section

attribute [local instance] WorkingDirectory.root

theorem mirrored_same_iff_climbing :
    let p : Path := ⟨"/proj/less/ui/less/main.less"⟩
    let q : Path := ⟨"/proj/less/less/main.scss"⟩
    Mirrors climbingOptions "../../../dist/./css/" ∧
      2 ≤ climbingOptions.artifactExtension.toList.length ∧
      '/' ∉ climbingOptions.artifactExtension.toList ∧
      keptRoot ∉ ["proj"] ∧
      LiesIn p (["proj"] ++ keptRoot :: ["ui", "less"]) "main.less" ∧
      LiesIn q (["proj"] ++ keptRoot :: ["less"]) "main.scss" ∧
      ¬(path climbingOptions p p.directory none).same
        (path climbingOptions q q.directory (some ⟨"/proj"⟩)) = true := by
  intro p q
  have hMirrors : Mirrors climbingOptions "../../../dist/./css/" :=
    ⟨rfl, rfl, by decide +kernel, by decide +kernel⟩
  have hLength : 2 ≤ climbingOptions.artifactExtension.toList.length := by decide +kernel
  have hSlash : '/' ∉ climbingOptions.artifactExtension.toList := by decide +kernel
  have hAbove : keptRoot ∉ ["proj"] := by decide
  have hp : LiesIn p (["proj"] ++ keptRoot :: ["ui", "less"]) "main.less" := by
    unfold LiesIn
    decide +kernel
  have hq : LiesIn q (["proj"] ++ keptRoot :: ["less"]) "main.scss" := by
    unfold LiesIn
    decide +kernel
  refine ⟨hMirrors, hLength, hSlash, hAbove, hp, hq, ?_⟩
  rw [mirrored_same_iff hMirrors hLength hSlash hAbove hp hq none (some ⟨"/proj"⟩)]
  decide

end

end StylesheetBuild.Artifact
