import StylesheetBuild.Proofs.Artifact.DefaultName

/-!
# Templates that end in the stem

A template that names the file by its stem alone is completed with the artifact extension, as if the
extension were written out, unless the name it expands to is read otherwise: a stem with a dot in it
has an extension already, and one that ends in a backslash is a folder. There the two templates never
have one artifact.
-/

namespace StylesheetBuild.Artifact

open StylesheetBuild.Path

/-- The stem behind the folder is read as a file name without an extension, and the artifact
extension as the end of one. -/
structure ReadsAsStem (folder stem extension : List Char) : Prop where
  file : isFolder stem = false
  bare : hasExtension (folder ++ stem) = false
  ending : isFolder extension = false

def writtenStem (folder : String) : String :=
  folder ++ "\x7bname\x7d"

theorem toList_writtenStem (folder : String) :
    (writtenStem folder).toList = folder.toList ++ namePlaceholder :=
  String.toList_append

section

variable {dir : Path} {folder stem extension : List Char}

theorem expandChars_writtenStem (hFolder : IsLiteralFolder folder) (values : TemplateValues)
    (hStem : IsPlainStem values.name.toList) :
    values.expandChars (folder ++ namePlaceholder) = folder ++ values.name.toList := by
  have hName : namePlaceholder ∈ placeholders := by decide
  have hSome : namePlaceholder ≠ [] := by decide
  have hNames : Text.replaceAll namePlaceholder values.name.toList (folder ++ namePlaceholder) =
      folder ++ values.name.toList := by
    rw [(hFolder.passes hName _).replaceAll hSome, Text.replaceAll_self hSome]
  have hFree : ∀ placeholder ∈ placeholders, ¬placeholder <:+: folder ++ values.name.toList := by
    intro placeholder hPlaceholder
    have hNil : ¬placeholder <:+: [] := by
      have hAll : ∀ placeholder ∈ placeholders, ¬placeholder <:+: [] := by decide
      exact hAll placeholder hPlaceholder
    have hText := fileText_free hFolder hStem hPlaceholder hNil
    rwa [List.append_nil] at hText
  rw [TemplateValues.expandChars, expandNames, hNames, Text.replaceAll_eq_self (hFree _ (by decide)),
    Text.replaceFirst_eq_self (hFree _ (by decide)), Text.replaceFirst_eq_self (hFree _ (by decide))]
  exact expandWorkspace_eq_self (.inr fun placeholder hPlaceholder =>
    hFree placeholder (List.mem_append_right _ hPlaceholder))

theorem isName_of_length {segment : List Char} (hSlash : '/' ∉ segment)
    (hLength : 3 ≤ segment.length) : IsName (String.ofList segment) := by
  refine isName_ofList hSlash ⟨?_, ?_, ?_⟩ <;> rintro rfl <;> simp at hLength

theorem hasExtension_append_extension (hFolder : IsFolderText folder) (hStem : stem ≠ [])
    (hName : IsName (String.ofList (stem ++ extension))) (hDot : extension.head? = some '.') :
    hasExtension (folder ++ (stem ++ extension)) = true := by
  obtain ⟨rest, rfl⟩ := List.head?_eq_some_iff.mp hDot
  obtain ⟨c, more, rfl⟩ := List.exists_cons_of_ne_nil hStem
  have hLeaf := hasExtension_append hFolder hName
  rw [String.toList_ofList] at hLeaf
  rw [hLeaf, splitExtension_isSome_iff]
  simp

section

variable (hSlash : '/' ∉ stem ++ extension) (hStem : stem ≠ [])
include hSlash hStem

/-- The text that the template with the stem is completed to, behind the folder. -/
theorem exists_stemPlace_eq (folder : List Char) :
    ∃ text, '/' ∉ text ∧ completeFile (folder ++ stem) stem extension = folder ++ text ∧
      (text = stem ++ (stem ++ extension) ∧ isFolder stem = true ∨
        text = stem ++ extension ∧ isFolder stem = false ∧ hasExtension (folder ++ stem) = false ∨
        text = stem ∧ isFolder stem = false ∧ hasExtension (folder ++ stem) = true) := by
  have hWhole : isFolder (folder ++ stem) = isFolder stem := isFolder_append hStem folder
  have hStemSlash : '/' ∉ stem := fun hMember => hSlash (List.mem_append_left _ hMember)
  cases hEnd : isFolder stem with
  | true =>
    refine ⟨stem ++ (stem ++ extension), ?_, ?_, .inl ⟨rfl, rfl⟩⟩
    · rw [List.mem_append, not_or]
      exact ⟨hStemSlash, hSlash⟩
    · rw [completeFile_of_isFolder (hWhole.trans hEnd), List.append_assoc]
  | false =>
    cases hExtension : hasExtension (folder ++ stem) with
    | false =>
      refine ⟨stem ++ extension, hSlash, ?_, .inr (.inl ⟨rfl, rfl, rfl⟩)⟩
      rw [completeFile_of_no_extension (hWhole.trans hEnd) hExtension, List.append_assoc]
    | true =>
      refine ⟨stem, hStemSlash, ?_, .inr (.inr ⟨rfl, rfl, rfl⟩)⟩
      exact completeFile_eq_self (hWhole.trans hEnd) (.inr hExtension)

/-- The text that the template with stem and extension is completed to, behind the folder. -/
theorem exists_namePlace_eq (hFolder : IsFolderText folder) (hDot : extension.head? = some '.')
    (hLength : 2 ≤ extension.length) :
    ∃ text, IsName (String.ofList text) ∧
      completeFile (folder ++ (stem ++ extension)) stem extension = folder ++ text ∧
      (text = stem ++ extension ++ (stem ++ extension) ∧ isFolder extension = true ∨
        text = stem ++ extension ∧ isFolder extension = false) := by
  have hSome : extension ≠ [] := by
    rintro rfl
    cases hDot
  have hWhole : isFolder (folder ++ (stem ++ extension)) = isFolder extension := by
    rw [← List.append_assoc]
    exact isFolder_append hSome _
  have hStemLength := List.length_pos_iff.mpr hStem
  have hName : IsName (String.ofList (stem ++ extension)) := by
    apply isName_of_length hSlash
    rw [List.length_append]
    omega
  cases hEnd : isFolder extension with
  | true =>
    refine ⟨stem ++ extension ++ (stem ++ extension), ?_, ?_, .inl ⟨rfl, rfl⟩⟩
    · apply isName_of_length
      · rw [List.mem_append, or_self]
        exact hSlash
      · rw [List.length_append, List.length_append]
        omega
    · rw [completeFile_of_isFolder (hWhole.trans hEnd), List.append_assoc folder]
  | false =>
    refine ⟨stem ++ extension, hName, ?_, .inr ⟨rfl, rfl⟩⟩
    have hExtension := hasExtension_append_extension hFolder hStem hName hDot
    exact completeFile_eq_self (hWhole.trans hEnd) (.inr hExtension)

theorem namesAlong_stemPlace_eq_iff (hFolder : IsFolderText folder)
    (hDot : extension.head? = some '.') (hLength : 2 ≤ extension.length) :
    namesAlong dir (completeFile (folder ++ stem) stem extension) =
        namesAlong dir (completeFile (folder ++ (stem ++ extension)) stem extension) ↔
      ReadsAsStem folder stem extension := by
  obtain ⟨text, hText, hPlace, hCases⟩ := exists_stemPlace_eq hSlash hStem folder
  obtain ⟨name, hName, hNamed, hNameCases⟩ := exists_namePlace_eq hSlash hStem hFolder hDot hLength
  have hStemLength := List.length_pos_iff.mpr hStem
  rw [hPlace, hNamed]
  constructor
  · intro hSame
    rw [← String.toList_ofList (l := name)] at hSame
    have hEq := eq_of_namesAlong_append_name hFolder hText hName hSame
    rw [String.toList_ofList] at hEq
    -- of all the ways to complete the two, only one gives texts of one length
    have hLengths := congrArg List.length hEq
    rcases hNameCases with ⟨rfl, -⟩ | ⟨rfl, hEnding⟩
    · rcases hCases with ⟨rfl, -⟩ | ⟨rfl, -⟩ | ⟨rfl, -⟩ <;>
        (simp only [List.length_append] at hLengths; omega)
    · rcases hCases with ⟨rfl, -⟩ | ⟨rfl, hFile, hBare⟩ | ⟨rfl, -⟩
      · simp only [List.length_append] at hLengths
        omega
      · exact ⟨hFile, hBare, hEnding⟩
      · simp only [List.length_append] at hLengths
        omega
  · rintro ⟨hFile, hBare, hEnding⟩
    rcases hCases with ⟨-, hFolderStem⟩ | ⟨rfl, -, -⟩ | ⟨-, -, hExtension⟩
    · rw [hFile] at hFolderStem
      cases hFolderStem
    · rcases hNameCases with ⟨-, hFolderEnd⟩ | ⟨rfl, -⟩
      · rw [hEnding] at hFolderEnd
        cases hFolderEnd
      · rfl
    · rw [hBare] at hExtension
      cases hExtension

end

end

/-! ## Artifacts -/

theorem head?_artifactExtension {o : Options} (h : o.artifactExtension.toList ≠ []) :
    o.artifactExtension.toList.head? = some '.' := by
  unfold Options.artifactExtension at h ⊢
  split
  · decide
  · split
    · simp_all
    · rw [String.toList_ofList, List.head?_cons]

section

variable {o : Options} {folder stem : String} {source dir : Path} {root : Option Path}

theorem keptNames_eq_nil (h : o.keepsFolders = false) : keptNames o dir = [] := by
  simp [keptNames, h]

theorem place_writtenStem (hFolder : IsLiteralFolder folder.toList)
    (hStem : source.stem? = some stem) (hPlain : IsPlainStem stem.toList)
    (hOff : o.keepsFolders = false) :
    placeOfTemplate (toTemplate o (writtenStem folder)) (writtenStem folder) source dir root =
      completeFile (folder.toList ++ stem.toList) stem.toList o.artifactExtension.toList := by
  have hExpanded : expandedTemplate (toTemplate o (writtenStem folder)) (writtenStem folder) source
      root = folder.toList ++ stem.toList := by
    rw [expandedTemplate, sourceStem_of_stem? hStem, toList_writtenStem]
    exact expandChars_writtenStem hFolder ⟨stem, o.artifactExtension, root⟩ hPlain
  have hKept : keptNames (toTemplate o (writtenStem folder)) dir = [] := keptNames_eq_nil hOff
  rw [placeOfTemplate_eq, hExpanded, hKept, sourceStem_of_stem? hStem]
  rfl

/-- A template that ends in the stem has the artifact of the one that ends in stem and extension
just where the stem is read as a name without extension. Where it is read as a name with one, that
name is the artifact. -/
theorem path_writtenStem [WorkingDirectory] (root : Option Path)
    (hFolder : IsLiteralFolder folder.toList)
    (hStem : source.stem? = some stem) (hPlain : IsPlainStem stem.toList)
    (hDir : dir.isAbsolute = true) (hOff : o.keepsFolders = false)
    (hLength : 2 ≤ o.artifactExtension.toList.length) (hSlash : '/' ∉ o.artifactExtension.toList)
    (hExtension : ∀ placeholder ∈ laterPlaceholders root,
      ¬placeholder <:+: o.artifactExtension.toList) :
    (path (toTemplate o (writtenStem folder)) source dir root =
        path (toTemplate o (writtenName folder)) source dir root ↔
      ReadsAsStem folder.toList stem.toList o.artifactExtension.toList) ∧
    (isFolder stem.toList = false → hasExtension (folder.toList ++ stem.toList) = true →
      path (toTemplate o (writtenStem folder)) source dir root =
        dir.resolve ⟨folder ++ stem⟩) := by
  have hSome : o.artifactExtension.toList ≠ [] := by
    rintro hNil
    simp [hNil] at hLength
  have hNamed : placeOfTemplate (toTemplate o (writtenName folder)) (writtenName folder) source dir
      root = completeFile (folder.toList ++ (stem.toList ++ o.artifactExtension.toList))
        stem.toList o.artifactExtension.toList := by
    rw [place_writtenName hFolder hStem hPlain hExtension, keptNames_eq_nil hOff]
    rfl
  constructor
  · rw [path_toTemplate_eq_iff hDir, place_writtenStem hFolder hStem hPlain hOff, hNamed]
    refine namesAlong_stemPlace_eq_iff ?_ (stem_ne_nil hStem) (isFolderText_of_ends hFolder.ends)
      (head?_artifactExtension hSome) hLength
    rw [List.mem_append, not_or]
    exact ⟨noSlash_stem hStem, hSlash⟩
  · intro hFile hOwn
    have hWhole := (isFolder_append (stem_ne_nil hStem) folder.toList).trans hFile
    rw [path_of_template rfl, place_writtenStem hFolder hStem hPlain hOff,
      completeFile_eq_self hWhole (.inr hOwn), ofChars, String.ofList_append,
      String.ofList_toList, String.ofList_toList]

end

def minifiedOptions : Options where
  outputExtension := some "min.css"

section

attribute [local instance] WorkingDirectory.root

theorem path_writtenStem_dotted :
    let p : Path := ⟨"/proj/less/.main.less"⟩
    let q : Path := ⟨"/proj/less/site.v1.less"⟩
    let root : Path := ⟨"/proj"⟩
    let template := writtenStem "../v1.0/"
    IsLiteralFolder "../v1.0/".toList ∧ minifiedOptions.keepsFolders = false ∧
      2 ≤ minifiedOptions.artifactExtension.toList.length ∧
      '/' ∉ minifiedOptions.artifactExtension.toList ∧
      (∀ placeholder ∈ laterPlaceholders (some root),
        ¬placeholder <:+: minifiedOptions.artifactExtension.toList) ∧
      (p.stem? = some ".main" ∧ IsPlainStem ".main".toList ∧ p.directory.isAbsolute = true ∧
        path (toTemplate minifiedOptions template) p p.directory (some root) =
          path (toTemplate minifiedOptions (writtenName "../v1.0/")) p p.directory (some root)) ∧
      q.stem? = some "site.v1" ∧ IsPlainStem "site.v1".toList ∧ q.directory.isAbsolute = true ∧
        path (toTemplate minifiedOptions template) q q.directory (some root) =
          q.directory.resolve ⟨"../v1.0/" ++ "site.v1"⟩ := by
  intro p q root template
  have hFolder : IsLiteralFolder "../v1.0/".toList := ⟨by decide, by decide +kernel⟩
  have hOff : minifiedOptions.keepsFolders = false := rfl
  have hLength : 2 ≤ minifiedOptions.artifactExtension.toList.length := by decide +kernel
  have hSlash : '/' ∉ minifiedOptions.artifactExtension.toList := by decide +kernel
  have hExtension : ∀ placeholder ∈ laterPlaceholders (some root),
      ¬placeholder <:+: minifiedOptions.artifactExtension.toList := by decide +kernel
  have hHidden : p.stem? = some ".main" := by decide +kernel
  have hHiddenPlain : IsPlainStem ".main".toList := ⟨by decide, by decide⟩
  have hHiddenDir : p.directory.isAbsolute = true := by decide +kernel
  have hDotted : q.stem? = some "site.v1" := by decide +kernel
  have hDottedPlain : IsPlainStem "site.v1".toList := ⟨by decide, by decide⟩
  have hDottedDir : q.directory.isAbsolute = true := by decide +kernel
  obtain ⟨hSame, -⟩ := path_writtenStem (some root) hFolder hHidden hHiddenPlain hHiddenDir hOff
    hLength hSlash hExtension
  obtain ⟨-, hOwn⟩ := path_writtenStem (some root) hFolder hDotted hDottedPlain hDottedDir hOff
    hLength hSlash hExtension
  refine ⟨hFolder, hOff, hLength, hSlash, hExtension, ⟨hHidden, hHiddenPlain, hHiddenDir, ?_⟩,
    hDotted, hDottedPlain, hDottedDir, ?_⟩
  · exact hSame.mpr ⟨by decide +kernel, by decide +kernel, by decide +kernel⟩
  · exact hOwn (by decide +kernel) (by decide +kernel)

def backslashExtensionOptions : Options where
  outputExtension := some "css\\"

/-- A dot in the stem counts as an extension, a backslash at the end of the stem or of the extension
as a folder, and a placeholder in the extension is replaced once it stands in the template. -/
theorem path_writtenStem_ne_name :
    let template := writtenStem "/proj/dist/"
    let named := writtenName "/proj/dist/"
    let dir : Path := ⟨"/proj/less"⟩
    let o : Options := {}
    IsLiteralFolder "/proj/dist/".toList ∧ dir.isAbsolute = true ∧ o.keepsFolders = false ∧
      (Path.mk "/proj/less/site.min.less").stem? = some "site.min" ∧
      IsPlainStem "site.min".toList ∧ o.artifactExtension = ".css" ∧
      path (toTemplate o template) ⟨"/proj/less/site.min.less"⟩ dir none =
        ⟨"/proj/dist/site.min"⟩ ∧
      path (toTemplate o named) ⟨"/proj/less/site.min.less"⟩ dir none =
        ⟨"/proj/dist/site.min.css"⟩ ∧
      path (toTemplate o template) ⟨"/proj/less/site.min.less"⟩ dir none ≠
        path (toTemplate o named) ⟨"/proj/less/site.min.less"⟩ dir none ∧
      path (toTemplate o template) ⟨"/proj/less/site\\.less"⟩ dir none =
        ⟨"/proj/dist/site\\site\\.css"⟩ ∧
      path (toTemplate o named) ⟨"/proj/less/site\\.less"⟩ dir none =
        ⟨"/proj/dist/site\\.css"⟩ ∧
      path (toTemplate backslashExtensionOptions template) ⟨"/proj/less/site.less"⟩ dir none =
        ⟨"/proj/dist/site.css\\"⟩ ∧
      path (toTemplate backslashExtensionOptions named) ⟨"/proj/less/site.less"⟩ dir none =
        ⟨"/proj/dist/site.css\\site.css\\"⟩ ∧
      path (toTemplate placeholderExtensionOptions template) ⟨"/proj/less/site.less"⟩ dir none =
        ⟨"/proj/dist/site.$1"⟩ ∧
      path (toTemplate placeholderExtensionOptions named) ⟨"/proj/less/site.less"⟩ dir none =
        ⟨"/proj/dist/site.site"⟩ :=
  ⟨⟨by decide, by decide +kernel⟩, by decide +kernel, rfl, by decide +kernel,
    ⟨by decide, by decide⟩, by decide +kernel⟩

end

end StylesheetBuild.Artifact
