import StylesheetBuild.Proofs.Artifact.Expansion
import StylesheetBuild.Proofs.Artifact.Mirroring
import StylesheetBuild.Proofs.Artifact.Segments

/-!
# Written default names

A folder template with the default file name written behind it expands to folder, stem and
extension. That text has lost its last slash, so what the folder template leaves no doubt about is
now read off the file name: without an extension it is a folder again, a backslash cuts it, and the
kept folders go to wherever that leads. The two templates have one artifact just when the file name
is read as one.
-/

namespace StylesheetBuild.Artifact

open StylesheetBuild.Path

/-! ## How a written name is read -/

section

variable {dir : Path} {folder stem extension : List Char} {kept : List String}

/-- The text behind the folder is read as the name of a file: nothing is put behind it, and folders
go before the whole of it. -/
structure ReadsAsFile (dir : Path) (folder stem extension : List Char) (kept : List String) :
    Prop where
  complete : kept = [] → isFolder (stem ++ extension) = false ∧
    (extension = [] ∨ hasExtension (folder ++ (stem ++ extension)) = true)
  whole : kept ≠ [] → (stem ++ extension).any isSeparator = false ∧
    (hasExtension (folder ++ (stem ++ extension)) = true ∨ stem ++ extension = ['.'] ∨
      stem ++ extension = ['.', '.'] ∧ namesAlong dir folder = [])

instance (dir : Path) (folder stem extension : List Char) (kept : List String) :
    Decidable (ReadsAsFile dir folder stem extension kept) :=
  decidable_of_iff (_ ∧ _) ⟨fun h => ReadsAsFile.mk h.1 h.2, fun h => ⟨h.complete, h.whole⟩⟩

/-- The text that the template with the written name is completed to. -/
def writtenPlace (folder stem extension : List Char) (kept : List String) : List Char :=
  completeFile (keepFolders (folder ++ (stem ++ extension)) (foldersText kept)) stem extension

theorem backslash_mem_of_isFolder {segment : List Char} (hSlash : '/' ∉ segment)
    (h : isFolder segment = true) : '\\' ∈ segment := by
  cases hLast : segment.getLast? with
  | none => simp [isFolder, hLast] at h
  | some c =>
    have hMember := List.mem_of_getLast? hLast
    simp only [isFolder, hLast, Option.any_some, isSeparator, Bool.or_eq_true, beq_iff_eq] at h
    rcases h with rfl | rfl
    · exact absurd hMember hSlash
    · exact hMember

/-- Whatever a text before the kept folders ends in becomes part of the first of them. -/
theorem namesAlong_inserted_ne (hFolder : IsFolderText folder) {before segment : List Char}
    (hBefore : before ≠ []) (hSlash : '/' ∉ before) (hSegment : '/' ∉ segment) {first : String}
    {rest : List String} (hKept : ∀ name ∈ first :: rest, IsName name) (leaf : String) :
    namesAlong dir (folder ++ (before ++ foldersText (first :: rest)) ++ segment) ≠
      namesAlong dir folder ++ (first :: rest ++ [leaf]) := by
  have hFirst := hKept first (by simp)
  have hText : before ++ foldersText (first :: rest) =
      foldersText (String.ofList (before ++ first.toList) :: rest) := by simp [foldersText]
  have hNames : ∀ name ∈ String.ofList (before ++ first.toList) :: rest, IsName name := by
    rintro name (_ | ⟨_, hRest⟩)
    · exact isName_append hSlash hFirst
    · exact hKept name (List.mem_cons_of_mem _ hRest)
  intro hSame
  have hCases := namesAlong_append_segment_cases
    (hFolder.append_foldersText (String.ofList (before ++ first.toList) :: rest)) dir hSegment
  rw [hText] at hSame
  rw [hSame, namesAlong_append_folders hFolder hNames] at hCases
  rcases hCases with hShort | hLong
  · simp only [List.length_append, List.length_cons, List.length_nil] at hShort
    omega
  · rw [List.append_assoc, List.append_cancel_left_eq, List.cons_append, List.cons_append,
      List.cons.injEq] at hLong
    have hChars := congrArg String.toList hLong.1
    rw [String.toList_ofList, List.self_eq_append_left] at hChars
    exact hBefore hChars

theorem dots_of_namesAlong_completed (hFolder : IsFolderText folder) {file : List Char}
    (hSome : file ≠ []) (hSlash : '/' ∉ file) (hNone : kept ≠ [])
    (hKept : ∀ name ∈ kept, IsName name)
    (h : namesAlong dir (folder ++ file ++ ['/'] ++ (foldersText kept ++ file)) =
      namesAlong dir (folder ++ (foldersText kept ++ file))) :
    file = ['.'] ∨ file = ['.', '.'] ∧ namesAlong dir folder = [] := by
  have hInner := isFolderText_concat (folder ++ file)
  have hInnerNames : namesAlong dir (folder ++ file ++ ['/']) = namesAlong dir (folder ++ file) :=
    namesAlong_append_slash (by simp [hSome])
  have hLength := congrArg List.length h
  have hPositive := List.length_pos_iff.mpr hNone
  rw [← List.append_assoc, ← List.append_assoc] at hLength
  -- as a folder of its own the file name counts once more, or takes away once more if it goes up
  rcases segment_cases hSlash with hSilent | rfl | ⟨name, hName, rfl⟩
  · exact .inl (hSilent.resolve_left hSome)
  · right
    rw [namesAlong_append_parent (hInner.append_foldersText kept),
      namesAlong_append_parent (hFolder.append_foldersText kept), namesAlong_append_folders hInner hKept,
      namesAlong_append_folders hFolder hKept, hInnerNames, namesAlong_append_parent hFolder] at hLength
    simp only [List.length_dropLast, List.length_append] at hLength
    exact ⟨rfl, List.length_eq_zero_iff.mp (by omega)⟩
  · rw [namesAlong_append_name (hInner.append_foldersText kept) hName,
      namesAlong_append_name (hFolder.append_foldersText kept) hName,
      namesAlong_append_folders hInner hKept, namesAlong_append_folders hFolder hKept, hInnerNames,
      namesAlong_append_name hFolder hName] at hLength
    simp only [List.length_append, List.length_singleton] at hLength
    omega

/-- A backslash in the file name is where the kept folders go in, unless they follow the whole of it. -/
theorem exists_keepFolders_cut {file : List Char} (hSlash : '/' ∉ file) (hBackslash : '\\' ∈ file)
    (h : isFolder file = true ∨ hasExtension (folder ++ file) = true) {folders : List Char}
    (hFolders : folders ≠ []) :
    ∃ before segment, before ≠ [] ∧ '/' ∉ before ∧ '/' ∉ segment ∧
      keepFolders (folder ++ file) folders = folder ++ (before ++ folders) ++ segment := by
  have hSome : file ≠ [] := List.ne_nil_of_mem hBackslash
  by_cases hEnd : isFolder file = true
  · refine ⟨file, [], hSome, hSlash, List.not_mem_nil, ?_⟩
    rw [keepFolders_of_folder (by rwa [isFolder_append hSome]), List.append_nil, List.append_assoc]
  have hExtension := h.resolve_left hEnd
  rw [Bool.not_eq_true] at hEnd
  obtain ⟨before, segment, rfl, -, hBefore, hSegment⟩ := exists_splitLeaf_eq file
  rw [List.mem_append, not_or] at hSlash
  have hCut : before ≠ [] := by
    rintro rfl
    exact hSegment _ hBackslash rfl
  refine ⟨before, segment, hCut, hSlash.1, hSlash.2, ?_⟩
  rw [keepFolders_of_extension (by rwa [isFolder_append hSome]) hExtension hFolders,
    ← List.append_assoc folder before segment, splitLeaf_append _ hSegment, List.append_assoc folder]
  intro c hc
  rw [List.getLast?_append_of_ne_nil _ hCut] at hc
  exact hBefore c hc

theorem exists_completeFile_eq_append (hSlash : '/' ∉ stem ++ extension) (path : List Char) :
    ∃ segment, '/' ∉ segment ∧ completeFile path stem extension = path ++ segment := by
  unfold completeFile
  split
  · exact ⟨stem ++ extension, hSlash, List.append_assoc path stem extension⟩
  split
  · exact ⟨extension, fun hMember => hSlash (List.mem_append_right _ hMember), rfl⟩
  · exact ⟨[], List.not_mem_nil, (List.append_nil path).symm⟩

theorem namesAlong_writtenPlace_ne_of_cut (hFolder : IsFolderText folder)
    (hSlash : '/' ∉ stem ++ extension) (hBackslash : '\\' ∈ stem ++ extension)
    (hCut : isFolder (stem ++ extension) = true ∨ hasExtension (folder ++ (stem ++ extension)) = true)
    (hNone : kept ≠ []) (hKept : ∀ name ∈ kept, IsName name) :
    namesAlong dir (writtenPlace folder stem extension kept) ≠
      namesAlong dir (folder ++ (foldersText kept ++ (stem ++ extension))) := by
  obtain ⟨before, segment, hBefore, hBeforeSlash, hSegment, hPlaced⟩ :=
    exists_keepFolders_cut hSlash hBackslash hCut (foldersText_ne_nil hNone)
  obtain ⟨suffix, hSuffix, hCompleted⟩ := exists_completeFile_eq_append hSlash
    (keepFolders (folder ++ (stem ++ extension)) (foldersText kept))
  have hNames : namesAlong dir (folder ++ (foldersText kept ++ (stem ++ extension))) =
      namesAlong dir folder ++ (kept ++ [String.ofList (stem ++ extension)]) := by
    rw [← namesAlong_append_names hFolder hKept (isName_of_backslash hSlash hBackslash),
      String.toList_ofList]
  obtain ⟨first, rest, rfl⟩ := List.exists_cons_of_ne_nil hNone
  rw [writtenPlace, hCompleted, hPlaced, List.append_assoc _ segment, hNames]
  apply namesAlong_inserted_ne hFolder hBefore hBeforeSlash _ hKept
  rw [List.mem_append, not_or]
  exact ⟨hSegment, hSuffix⟩

theorem complete_behind_folders (hFolder : IsFolderText folder) (hStem : stem ≠ [])
    (hSlash : '/' ∉ stem ++ extension) (h : hasExtension (folder ++ (stem ++ extension)) = true)
    (names : List String) :
    extension = [] ∨ hasExtension (folder ++ (foldersText names ++ (stem ++ extension))) = true := by
  rcases segment_cases hSlash with hSilent | hParent | ⟨name, hName, hText⟩
  · rcases hSilent with hNil | hDot
    · exact .inl (List.append_eq_nil_iff.mp hNil).2
    · obtain ⟨hNone, -⟩ | ⟨-, hNone⟩ := List.append_eq_singleton_iff.mp hDot
      · exact absurd hNone hStem
      · exact .inl hNone
  · rw [hParent, hasExtension_of_parent hFolder] at h
    cases h
  · right
    rw [hText, hasExtension_append hFolder hName] at h
    rw [hText, ← List.append_assoc, hasExtension_append (hFolder.append_foldersText names) hName]
    exact h

theorem writtenPlace_of_complete (hStem : stem ≠ []) (hEnd : isFolder (stem ++ extension) = false)
    (hComplete : extension = [] ∨ hasExtension (folder ++ (stem ++ extension)) = true) :
    writtenPlace folder stem extension [] = folder ++ (stem ++ extension) := by
  have hWhole : isFolder (folder ++ (stem ++ extension)) = false := by
    rwa [isFolder_append (by simp [hStem])]
  rw [writtenPlace, foldersText, List.flatMap_nil, keepFolders_nil,
    completeFile_eq_self hWhole hComplete]

theorem namesAlong_writtenPlace_of_whole (hEnds : folder.getLast? = some '/')
    (hStem : stem ≠ []) (hNone : kept ≠ [])
    (hPlain : ∀ c ∈ stem ++ extension, ¬isSeparator c)
    (hRead : hasExtension (folder ++ (stem ++ extension)) = true ∨ stem ++ extension = ['.'] ∨
      stem ++ extension = ['.', '.'] ∧ namesAlong dir folder = []) :
    namesAlong dir (writtenPlace folder stem extension kept) =
      namesAlong dir (folder ++ (foldersText kept ++ (stem ++ extension))) := by
  have hFile : stem ++ extension ≠ [] := by simp [hStem]
  have hFolder := isFolderText_of_ends hEnds
  have hWhole : ∀ before, isFolder (before ++ (stem ++ extension)) = false := by
    intro before
    rw [isFolder_append hFile, isFolder_of_no_separator hPlain]
  by_cases hExtension : hasExtension (folder ++ (stem ++ extension)) = true
  · have hSplit : splitLeaf (folder ++ (stem ++ extension)) = (folder, stem ++ extension) := by
      apply splitLeaf_append _ hPlain
      intro c hc
      rw [hFolder c hc]
      rfl
    rw [writtenPlace, keepFolders_of_extension (hWhole folder) hExtension (foldersText_ne_nil hNone),
      hSplit, List.append_assoc, completeFile_eq_self]
    · rw [← List.append_assoc]
      exact hWhole _
    · exact complete_behind_folders hFolder hStem (no_separator_iff.mp hPlain).1 hExtension kept
  · have hDots := hRead.resolve_left hExtension
    rw [Bool.not_eq_true] at hExtension
    rw [writtenPlace, keepFolders_of_no_extension (hWhole folder) hExtension (foldersText_ne_nil hNone),
      completeFile_of_folder List.getLast?_concat]
    apply namesAlong_congr_start List.getLast?_concat hEnds
    rw [namesAlong_append_slash (by simp [hFile])]
    rcases hDots with hDot | ⟨hParent, hRoot⟩
    · rw [hDot, namesAlong_append_silent hFolder (.inr rfl)]
    · rw [hParent, namesAlong_append_parent hFolder, hRoot, List.dropLast_nil]

theorem namesAlong_writtenPlace_of_readsAsFile (hEnds : folder.getLast? = some '/')
    (hStem : stem ≠ []) (h : ReadsAsFile dir folder stem extension kept) :
    namesAlong dir (writtenPlace folder stem extension kept) =
      namesAlong dir (folder ++ (foldersText kept ++ (stem ++ extension))) := by
  by_cases hNone : kept = []
  · obtain ⟨hEnd, hComplete⟩ := h.complete hNone
    rw [hNone, writtenPlace_of_complete hStem hEnd hComplete]
    rfl
  · obtain ⟨hPlain, hRead⟩ := h.whole hNone
    exact namesAlong_writtenPlace_of_whole hEnds hStem hNone (List.any_eq_false.mp hPlain) hRead

theorem complete_of_namesAlong_writtenPlace (hEnds : folder.getLast? = some '/')
    (hStem : stem ≠ []) (hSlash : '/' ∉ stem ++ extension)
    (h : namesAlong dir (writtenPlace folder stem extension []) =
      namesAlong dir (folder ++ (stem ++ extension))) :
    isFolder (stem ++ extension) = false ∧
      (extension = [] ∨ hasExtension (folder ++ (stem ++ extension)) = true) := by
  have hFile : stem ++ extension ≠ [] := by simp [hStem]
  have hFolder := isFolderText_of_ends hEnds
  have hWhole : isFolder (folder ++ (stem ++ extension)) = isFolder (stem ++ extension) :=
    isFolder_append hFile folder
  rw [writtenPlace, foldersText, List.flatMap_nil, keepFolders_nil] at h
  by_cases hEnd : isFolder (stem ++ extension) = true
  · rw [completeFile_of_isFolder (hWhole.trans hEnd), List.append_assoc folder] at h
    refine absurd h (namesAlong_append_ne hFolder hSlash hFile (isName_of_backslash ?_ ?_))
    · rw [List.mem_append, or_self]
      exact hSlash
    · exact List.mem_append_left _ (backslash_mem_of_isFolder hSlash hEnd)
  rw [Bool.not_eq_true] at hEnd
  refine ⟨hEnd, ?_⟩
  by_contra hRead
  rw [not_or, Bool.not_eq_true] at hRead
  obtain ⟨hSome, hExtension⟩ := hRead
  rw [completeFile_of_no_extension (hWhole.trans hEnd) hExtension, List.append_assoc folder] at h
  exact namesAlong_append_ne hFolder hSlash hSome (isName_completed hStem hSome hSlash) h

/-- A backslash cuts the file name or makes it a folder, so that a part of it comes before the kept
folders; a file name without extension comes before them as a whole. -/
theorem whole_of_namesAlong_writtenPlace (hEnds : folder.getLast? = some '/')
    (hStem : stem ≠ []) (hKept : ∀ name ∈ kept, IsName name) (hNone : kept ≠ [])
    (hSlash : '/' ∉ stem ++ extension)
    (h : namesAlong dir (writtenPlace folder stem extension kept) =
      namesAlong dir (folder ++ (foldersText kept ++ (stem ++ extension)))) :
    (∀ c ∈ stem ++ extension, ¬isSeparator c) ∧
      (hasExtension (folder ++ (stem ++ extension)) = true ∨ stem ++ extension = ['.'] ∨
        stem ++ extension = ['.', '.'] ∧ namesAlong dir folder = []) := by
  have hFile : stem ++ extension ≠ [] := by simp [hStem]
  have hFolder := isFolderText_of_ends hEnds
  have hDots : isFolder (stem ++ extension) = false →
      hasExtension (folder ++ (stem ++ extension)) = false →
      stem ++ extension = ['.'] ∨ stem ++ extension = ['.', '.'] ∧ namesAlong dir folder = [] := by
    intro hEnd hExtension
    rw [writtenPlace, keepFolders_of_no_extension (by rwa [isFolder_append hFile]) hExtension
      (foldersText_ne_nil hNone), completeFile_of_folder List.getLast?_concat] at h
    exact dots_of_namesAlong_completed hFolder hFile hSlash hNone hKept h
  have hBackslash : '\\' ∉ stem ++ extension := by
    intro hBackslash
    have hCut := fun hCut =>
      namesAlong_writtenPlace_ne_of_cut hFolder hSlash hBackslash hCut hNone hKept h
    rw [imp_false, not_or, Bool.not_eq_true, Bool.not_eq_true] at hCut
    rcases hDots hCut.1 hCut.2 with hDot | ⟨hParent, -⟩
    · simp [hDot] at hBackslash
    · simp [hParent] at hBackslash
  have hPlain := no_separator_iff.mpr ⟨hSlash, hBackslash⟩
  refine ⟨hPlain, ?_⟩
  cases hExtension : hasExtension (folder ++ (stem ++ extension)) with
  | true => exact .inl rfl
  | false => exact .inr (hDots (isFolder_of_no_separator hPlain) hExtension)

theorem readsAsFile_of_namesAlong_writtenPlace (hEnds : folder.getLast? = some '/')
    (hStem : stem ≠ []) (hKept : ∀ name ∈ kept, IsName name) (hSlash : '/' ∉ stem ++ extension)
    (h : namesAlong dir (writtenPlace folder stem extension kept) =
      namesAlong dir (folder ++ (foldersText kept ++ (stem ++ extension)))) :
    ReadsAsFile dir folder stem extension kept := by
  constructor
  case complete =>
    rintro rfl
    exact complete_of_namesAlong_writtenPlace hEnds hStem hSlash h
  case whole =>
    intro hNone
    obtain ⟨hPlain, hRead⟩ := whole_of_namesAlong_writtenPlace hEnds hStem hKept hNone hSlash h
    exact ⟨List.any_eq_false.mpr hPlain, hRead⟩

end

/-! ## Artifacts -/

def toTemplate (o : Options) (template : String) : Options :=
  { o with outputPath := some (.template template) }

section

variable {o : Options} {folder stem : String} {source dir : Path} {root : Option Path}

theorem stem_eq_splitExtension (h : source.stem? = some stem) :
    ∃ name, IsName name ∧ stem.toList = (splitExtension name.toList).1 := by
  obtain ⟨name, hName, rfl⟩ := Option.map_eq_some_iff.mp h
  exact ⟨name, isName_of_mem_steps (name_mem_steps hName), String.toList_ofList⟩

theorem stem_ne_nil (h : source.stem? = some stem) : stem.toList ≠ [] := by
  obtain ⟨name, hName, hStem⟩ := stem_eq_splitExtension h
  rw [hStem]
  exact splitExtension_ne_nil hName.toList_ne_nil

theorem noSlash_stem (h : source.stem? = some stem) : '/' ∉ stem.toList := by
  obtain ⟨name, hName, hStem⟩ := stem_eq_splitExtension h
  rw [hStem]
  exact fun hSlash => hName.2.2 ((splitExtension_isPrefix _).subset hSlash)

theorem sourceStem_of_stem? (h : source.stem? = some stem) : sourceStem source = stem := by
  rw [sourceStem, h]
  rfl

theorem path_toTemplate_eq_iff [WorkingDirectory] {template other : String}
    (hDir : dir.isAbsolute = true) :
    path (toTemplate o template) source dir root = path (toTemplate o other) source dir root ↔
      namesAlong dir (placeOfTemplate (toTemplate o template) template source dir root) =
        namesAlong dir (placeOfTemplate (toTemplate o other) other source dir root) := by
  rw [path_of_template rfl, path_of_template rfl]
  exact resolve_ofChars_inj hDir

theorem place_folder (hFolder : IsLiteralFolder folder.toList) (hStem : source.stem? = some stem) :
    placeOfTemplate (toTemplate o folder) folder source dir root =
      folder.toList ++
        (foldersText (keptNames o dir) ++ (stem.toList ++ o.artifactExtension.toList)) := by
  rw [placeOfTemplate_of_literal _ hFolder.ends hFolder.isPlain, sourceStem_of_stem? hStem]
  rfl

theorem place_writtenName (hFolder : IsLiteralFolder folder.toList)
    (hStem : source.stem? = some stem) (hPlain : IsPlainStem stem.toList)
    (hExtension : ∀ placeholder ∈ laterPlaceholders root,
      ¬placeholder <:+: o.artifactExtension.toList) :
    placeOfTemplate (toTemplate o (writtenName folder)) (writtenName folder) source dir root =
      writtenPlace folder.toList stem.toList o.artifactExtension.toList (keptNames o dir) := by
  have hExpanded : expandedTemplate (toTemplate o (writtenName folder)) (writtenName folder) source root =
      folder.toList ++ (stem.toList ++ o.artifactExtension.toList) := by
    rw [expandedTemplate, sourceStem_of_stem? hStem, toList_writtenName]
    exact expandChars_writtenName hFolder ⟨stem, o.artifactExtension, root⟩ hPlain hExtension
  rw [placeOfTemplate_eq, hExpanded, sourceStem_of_stem? hStem]
  rfl

/-- A folder template with the default file name behind it has the artifact of the folder template
where that name is read as a file. Only an extension with a slash in it can give the same artifact
elsewhere. -/
theorem path_writtenName [WorkingDirectory] (o : Options) (root : Option Path)
    (hFolder : IsLiteralFolder folder.toList) (hStem : source.stem? = some stem)
    (hPlain : IsPlainStem stem.toList) (hDir : dir.isAbsolute = true)
    (hExtension : ∀ placeholder ∈ laterPlaceholders root,
      ¬placeholder <:+: o.artifactExtension.toList) :
    (ReadsAsFile dir folder.toList stem.toList o.artifactExtension.toList (keptNames o dir) →
      path (toTemplate o (writtenName folder)) source dir root =
        path (toTemplate o folder) source dir root) ∧
    ('/' ∉ o.artifactExtension.toList →
      path (toTemplate o (writtenName folder)) source dir root =
        path (toTemplate o folder) source dir root →
      ReadsAsFile dir folder.toList stem.toList o.artifactExtension.toList (keptNames o dir)) := by
  rw [path_toTemplate_eq_iff hDir, place_folder hFolder hStem,
    place_writtenName hFolder hStem hPlain hExtension]
  constructor
  · exact namesAlong_writtenPlace_of_readsAsFile hFolder.ends (stem_ne_nil hStem)
  · intro hSlash
    apply readsAsFile_of_namesAlong_writtenPlace hFolder.ends (stem_ne_nil hStem)
      isName_of_mem_keptNames
    rw [List.mem_append, not_or]
    exact ⟨noSlash_stem hStem, hSlash⟩

end

def keptMinifiedOptions : Options where
  outputExtension := some "min.css"
  keepFolderStructure := some true

section

attribute [local instance] WorkingDirectory.root

theorem path_writtenName_minified :
    let p : Path := ⟨"/proj/less/ui/./forms/main.less"⟩
    let root : Path := ⟨"/proj"⟩
    IsLiteralFolder "../v1.0/".toList ∧ p.stem? = some "main" ∧ IsPlainStem "main".toList ∧
      p.directory.isAbsolute = true ∧
      (∀ placeholder ∈ laterPlaceholders (some root),
        ¬placeholder <:+: keptMinifiedOptions.artifactExtension.toList) ∧
      '/' ∉ keptMinifiedOptions.artifactExtension.toList ∧
      path (toTemplate keptMinifiedOptions (writtenName "../v1.0/")) p p.directory (some root) =
        path (toTemplate keptMinifiedOptions "../v1.0/") p p.directory (some root) ∧
      ReadsAsFile p.directory "../v1.0/".toList "main".toList
        keptMinifiedOptions.artifactExtension.toList (keptNames keptMinifiedOptions p.directory) := by
  intro p root
  have hFolder : IsLiteralFolder "../v1.0/".toList := ⟨by decide, by decide +kernel⟩
  have hStem : p.stem? = some "main" := by decide +kernel
  have hPlain : IsPlainStem "main".toList := ⟨by decide, by decide⟩
  have hDir : p.directory.isAbsolute = true := by decide +kernel
  have hExtension : ∀ placeholder ∈ laterPlaceholders (some root),
      ¬placeholder <:+: keptMinifiedOptions.artifactExtension.toList := by decide +kernel
  have hSlash : '/' ∉ keptMinifiedOptions.artifactExtension.toList := by decide +kernel
  obtain ⟨hSame, hReads⟩ :=
    path_writtenName keptMinifiedOptions (some root) hFolder hStem hPlain hDir hExtension
  have hFile := hSame (by decide +kernel)
  exact ⟨hFolder, hStem, hPlain, hDir, hExtension, hSlash, hFile, hReads hSlash hFile⟩

def keptWithoutExtensionOptions : Options where
  outputExtension := some ""
  keepFolderStructure := some true

def placeholderExtensionOptions : Options where
  outputExtension := some "$1"

/-- A file name without an extension is taken for a folder, and a placeholder in the extension is
replaced once it stands in the template. -/
theorem path_writtenName_ne_folder :
    let p : Path := ⟨"/proj/less/ui/main.less"⟩
    let o := keptWithoutExtensionOptions
    IsLiteralFolder "/proj/dist/".toList ∧ p.stem? = some "main" ∧ IsPlainStem "main".toList ∧
      p.directory.isAbsolute = true ∧
      path (toTemplate o (writtenName "/proj/dist/")) p p.directory none =
        ⟨"/proj/dist/main/ui/main"⟩ ∧
      path (toTemplate o "/proj/dist/") p p.directory none = ⟨"/proj/dist/ui/main"⟩ ∧
      path (toTemplate o (writtenName "/proj/dist/")) p p.directory none ≠
        path (toTemplate o "/proj/dist/") p p.directory none ∧
      path (toTemplate placeholderExtensionOptions (writtenName "/proj/dist/")) p p.directory none =
        ⟨"/proj/dist/main.main"⟩ ∧
      path (toTemplate placeholderExtensionOptions "/proj/dist/") p p.directory none =
        ⟨"/proj/dist/main.$1"⟩ :=
  ⟨⟨by decide, by decide +kernel⟩, by decide +kernel, ⟨by decide, by decide⟩, by decide +kernel⟩

end

end StylesheetBuild.Artifact
