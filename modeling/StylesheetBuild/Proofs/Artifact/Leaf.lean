import Mathlib.Data.List.DropRight
import StylesheetBuild.Proofs.Artifact.Placement

/-!
# Folders and leaf of a place

A text is cut behind its last slash, or behind its last separator of either kind, into folders and a
leaf. What follows a slash starts a segment of its own, so the steps of the text are those of the two
parts, and a leaf that is an ordinary name decides by itself whether the text has an extension.
-/

namespace StylesheetBuild.Path

/-- Nothing, or a text that ends in a slash. -/
def IsFolderText (cs : List Char) : Prop :=
  ∀ c ∈ cs.getLast?, c = '/'

theorem isFolderText_concat (before : List Char) : IsFolderText (before ++ ['/']) := by
  simp [IsFolderText]

theorem isFolderText_of_ends {text : List Char} (h : text.getLast? = some '/') : IsFolderText text := by
  intro c hc
  rw [h] at hc
  exact (Option.some.inj hc).symm

theorem ne_nil_of_ends {text : List Char} (h : text.getLast? = some '/') : text ≠ [] := by
  rintro rfl
  cases h

theorem IsFolderText.cases {folder : List Char} (h : IsFolderText folder) :
    folder = [] ∨ ∃ before, folder = before ++ ['/'] := by
  rcases List.eq_nil_or_concat folder with rfl | ⟨before, c, rfl⟩
  · exact .inl rfl
  · obtain rfl := h c (by simp)
    exact .inr ⟨before, List.concat_eq_append⟩

theorem IsFolderText.append_foldersText {folder : List Char} (h : IsFolderText folder)
    (names : List String) : IsFolderText (folder ++ Artifact.foldersText names) := by
  rcases List.eq_nil_or_concat names with rfl | ⟨names, name, rfl⟩
  · simpa [Artifact.foldersText] using h
  · simp [IsFolderText, Artifact.foldersText, List.getLast?_append]

theorem IsName.toList_ne_nil {name : String} (h : IsName name) : name.toList ≠ [] := by
  intro hNil
  have hSilent := h.1
  rw [hNil] at hSilent
  cases hSilent

theorem IsFolderText.steps_append {folder : List Char} (h : IsFolderText folder)
    (after : List Char) :
    (ofChars (folder ++ after)).steps = (ofChars folder).steps ++ (ofChars after).steps := by
  rcases h.cases with rfl | ⟨before, rfl⟩
  · simp
  · rw [List.append_assoc, List.singleton_append, steps_append_slash, steps_append_slash,
      steps_ofChars_nil, List.append_nil]

theorem steps_of_noSlash {segment : List Char} (h : '/' ∉ segment) :
    (ofChars segment).steps = (Component.ofSegment? segment).toList := by
  rw [steps, segments, chars_ofChars, List.splitOn_eq_singleton h]
  cases hStep : Component.ofSegment? segment <;> simp [hStep]

theorem isAbsolute_append {before after : List Char} (h : before ≠ [] ∨ after.head? ≠ some '/') :
    (ofChars (before ++ after)).isAbsolute = (ofChars before).isAbsolute := by
  cases before with
  | nil => simpa [isAbsolute, chars_ofChars] using h
  | cons c before => simp [isAbsolute, chars_ofChars]

/-- The text up to and including its last slash. -/
def folderText (cs : List Char) : List Char :=
  cs.rdropWhile (· != '/')

def leafText (cs : List Char) : List Char :=
  cs.rtakeWhile (· != '/')

theorem folderText_append_leafText (cs : List Char) : folderText cs ++ leafText cs = cs :=
  List.rdropWhile_append_rtakeWhile

section

variable {p : Char → Bool}

theorem getLast?_rdropWhile (cs : List Char) : ∀ c ∈ (cs.rdropWhile p).getLast?, p c = false := by
  intro c hc
  have hSome : cs.rdropWhile p ≠ [] := by
    intro hNil
    simp [hNil] at hc
  have hLast := List.rdropWhile_last_not p cs hSome
  rw [List.getLast?_eq_some_getLast hSome, Option.mem_some_iff] at hc
  rwa [hc, Bool.not_eq_true] at hLast

theorem rdropWhile_append {before leaf : List Char} (hBefore : ∀ c ∈ before.getLast?, p c = false)
    (hLeaf : ∀ c ∈ leaf, p c = true) : (before ++ leaf).rdropWhile p = before := by
  induction leaf using List.reverseRecOn with
  | nil =>
    rw [List.append_nil, List.rdropWhile_eq_self_iff]
    intro hSome
    simp [hBefore _ (List.getLast?_eq_some_getLast hSome)]
  | append_singleton leaf c ih =>
    rw [← List.append_assoc, List.rdropWhile_concat_pos p _ c (hLeaf c (by simp))]
    exact ih fun c hc => hLeaf c (by simp [hc])

theorem rtakeWhile_append {before leaf : List Char} (hBefore : ∀ c ∈ before.getLast?, p c = false)
    (hLeaf : ∀ c ∈ leaf, p c = true) : (before ++ leaf).rtakeWhile p = leaf := by
  have hWhole := List.rdropWhile_append_rtakeWhile (p := p) (l := before ++ leaf)
  rw [rdropWhile_append hBefore hLeaf] at hWhole
  exact List.append_cancel_left hWhole

end

theorem isFolderText_folderText (cs : List Char) : IsFolderText (folderText cs) := by
  intro c hc
  simpa using getLast?_rdropWhile cs c hc

theorem noSlash_leafText (cs : List Char) : '/' ∉ leafText cs := by
  intro hSlash
  have hOther := List.mem_rtakeWhile_imp hSlash
  simp at hOther

theorem folderText_append {folder leaf : List Char} (hFolder : IsFolderText folder)
    (hLeaf : '/' ∉ leaf) : folderText (folder ++ leaf) = folder := by
  apply rdropWhile_append
  · intro c hc
    simp [hFolder c hc]
  · intro c hc
    exact bne_iff_ne.mpr (ne_of_mem_of_not_mem hc hLeaf)

theorem leafText_append {folder leaf : List Char} (hFolder : IsFolderText folder)
    (hLeaf : '/' ∉ leaf) : leafText (folder ++ leaf) = leaf := by
  have hWhole := folderText_append_leafText (folder ++ leaf)
  rw [folderText_append hFolder hLeaf] at hWhole
  exact List.append_cancel_left hWhole

/-! ## Names reached along a text -/

/-- The names of the path that a text stands for, seen from a directory. -/
def namesAlong (dir : Path) (cs : List Char) : List String :=
  (ofChars cs).steps.foldl walk (startNames dir (ofChars cs))

section

variable {dir : Path}

theorem isName_of_mem_namesAlong {cs : List Char} : ∀ name ∈ namesAlong dir cs, IsName name :=
  fun _ => isName_of_mem_walk

theorem namesAlong_append {folder after : List Char} (hFolder : IsFolderText folder)
    (hStart : folder ≠ [] ∨ after.head? ≠ some '/') :
    namesAlong dir (folder ++ after) = (ofChars after).steps.foldl walk (namesAlong dir folder) := by
  rw [namesAlong, hFolder.steps_append, List.foldl_append, startNames, isAbsolute_append hStart,
    ← startNames, ← namesAlong]

theorem namesAlong_append_slash {folder : List Char} (h : folder ≠ []) :
    namesAlong dir (folder ++ ['/']) = namesAlong dir folder := by
  rw [namesAlong, steps_append_slash, steps_ofChars_nil, List.append_nil, startNames,
    isAbsolute_append (.inl h), ← startNames, ← namesAlong]

theorem head?_append_ne_slash {name : String} (h : IsName name) (after : List Char) :
    (name.toList ++ after).head? ≠ some '/' := by
  obtain ⟨c, cs, hText⟩ := List.exists_cons_of_ne_nil h.toList_ne_nil
  rw [hText]
  intro hHead
  apply h.2.2
  rw [hText, Option.some.inj hHead]
  simp

variable (hDir : dir.isAbsolute = true)
include hDir

theorem resolve_ofChars [WorkingDirectory] (cs : List Char) : dir.resolve (ofChars cs) = ofNames
    (namesAlong dir cs) :=
  resolve_eq hDir (ofChars cs)

theorem components_resolve_ofChars [WorkingDirectory] (cs : List Char) :
    (dir.resolve (ofChars cs)).components = .root :: (namesAlong dir cs).map .name := by
  rw [resolve_ofChars hDir, components_ofNames isName_of_mem_namesAlong]

theorem resolve_ofChars_inj [WorkingDirectory] {cs other : List Char} :
    dir.resolve (ofChars cs) = dir.resolve (ofChars other) ↔
      namesAlong dir cs = namesAlong dir other := by
  constructor
  · intro hSame
    exact walk_eq_of_resolve_same hDir hDir (by simp [hSame, same])
  · intro hNames
    rw [resolve_ofChars hDir, resolve_ofChars hDir, hNames]

end

/-! ## Extensions -/

/-- The first letter of a name never starts its extension. -/
theorem splitExtension_isSome_iff (name : List Char) :
    (splitExtension name).2.isSome = true ↔ '.' ∈ name.tail := by
  cases name with
  | nil => simp [splitExtension]
  | cons c tail =>
    have hNone : tail.reverse.dropWhile (· != '.') = [] ↔ '.' ∉ tail := by
      simp [List.dropWhile_eq_nil_iff, imp_not_comm]
    rw [splitExtension, List.reverse_cons, List.dropWhile_append, List.tail_cons]
    cases hRest : tail.reverse.dropWhile (· != '.') with
    | nil =>
      have hFirst : [c].dropWhile (· != '.') = [] ∨ [c].dropWhile (· != '.') = [c] := by
        by_cases hDot : c = '.' <;> simp [hDot]
      rcases hFirst with hFirst | hFirst <;> simp [hFirst, hNone.mp hRest]
    | cons dot before =>
      have hDot : '.' ∈ tail := by
        by_contra hPlain
        simp [hNone.mpr hPlain] at hRest
      cases before <;> simp [hDot]

theorem fileName?_ofChars_append {folder : List Char} (hFolder : IsFolderText folder) {leaf : String}
    (hLeaf : IsName leaf) : (ofChars (folder ++ leaf.toList)).fileName? = some leaf := by
  rw [fileName?, components, hFolder.steps_append, hLeaf.steps_ofChars, ← List.append_assoc,
    List.getLast?_concat]
  rfl

theorem fileName?_of_parent {folder : List Char} (hFolder : IsFolderText folder) :
    (ofChars (folder ++ ['.', '.'])).fileName? = none := by
  have hParent : '/' ∉ ['.', '.'] := by decide
  rw [fileName?, components, hFolder.steps_append, steps_of_noSlash hParent, ← List.append_assoc]
  exact congrArg (·.bind Component.name?) List.getLast?_concat

end StylesheetBuild.Path

namespace StylesheetBuild.Artifact

open StylesheetBuild.Path

theorem hasExtension_append {folder : List Char} (hFolder : IsFolderText folder) {leaf : String}
    (hLeaf : IsName leaf) :
    hasExtension (folder ++ leaf.toList) = (splitExtension leaf.toList).2.isSome := by
  rw [hasExtension, extension?, fileName?_ofChars_append hFolder hLeaf, Option.bind_some,
    Option.isSome_map]

theorem hasExtension_of_parent {folder : List Char} (hFolder : IsFolderText folder) :
    hasExtension (folder ++ ['.', '.']) = false := by
  rw [hasExtension, extension?, fileName?_of_parent hFolder]
  rfl

theorem no_separator_iff {segment : List Char} :
    (∀ c ∈ segment, ¬isSeparator c) ↔ '/' ∉ segment ∧ '\\' ∉ segment := by
  constructor
  · intro h
    exact ⟨fun hSlash => h _ hSlash rfl, fun hBackslash => h _ hBackslash rfl⟩
  · rintro ⟨hSlash, hBackslash⟩ c hc hSeparator
    simp only [isSeparator, Bool.or_eq_true, beq_iff_eq] at hSeparator
    rcases hSeparator with rfl | rfl
    · exact hSlash hc
    · exact hBackslash hc

theorem splitLeaf_eq (cs : List Char) :
    splitLeaf cs = (cs.rdropWhile (!isSeparator ·), cs.rtakeWhile (!isSeparator ·)) := by
  have hDrop : cs.reverse.drop (cs.reverse.takeWhile (!isSeparator ·)).length =
      cs.reverse.dropWhile (!isSeparator ·) := by
    conv_lhs => arg 2; rw [← List.takeWhile_append_dropWhile (p := (!isSeparator ·)) (l := cs.reverse)]
    exact List.drop_left
  simp only [splitLeaf, hDrop]
  rfl

theorem splitLeaf_append {before leaf : List Char} (hBefore : ∀ c ∈ before.getLast?, isSeparator c)
    (hLeaf : ∀ c ∈ leaf, ¬isSeparator c) : splitLeaf (before ++ leaf) = (before, leaf) := by
  have hStays : ∀ c ∈ before.getLast?, (!isSeparator c) = false := by simpa using hBefore
  have hGoes : ∀ c ∈ leaf, (!isSeparator c) = true := by simpa using hLeaf
  rw [splitLeaf_eq, rdropWhile_append hStays hGoes, rtakeWhile_append hStays hGoes]

theorem exists_splitLeaf_eq (cs : List Char) :
    ∃ before leaf, cs = before ++ leaf ∧ splitLeaf cs = (before, leaf) ∧
      (∀ c ∈ before.getLast?, isSeparator c) ∧ ∀ c ∈ leaf, ¬isSeparator c := by
  refine ⟨_, _, List.rdropWhile_append_rtakeWhile.symm, splitLeaf_eq cs, ?_, ?_⟩
  · intro c hc
    simpa using getLast?_rdropWhile cs c hc
  · intro c hc
    simpa using List.mem_rtakeWhile_imp hc

/-! ## Texts with kept folders -/

theorem foldersText_ne_nil {names : List String} (h : names ≠ []) : foldersText names ≠ [] := by
  obtain ⟨name, names, rfl⟩ := List.exists_cons_of_ne_nil h
  simp [foldersText]

theorem isFolder_append {after : List Char} (h : after ≠ []) (before : List Char) :
    isFolder (before ++ after) = isFolder after := by
  rw [isFolder, List.getLast?_append, List.getLast?_eq_some_getLast h, Option.some_or, isFolder,
    List.getLast?_eq_some_getLast h]

theorem isFolder_of_ends {before : List Char} (h : before.getLast? = some '/') :
    isFolder before = true := by
  simp [isFolder, h, isSeparator]

theorem completeFile_eq_self {path stem extension : List Char} (hFolder : isFolder path = false)
    (h : extension = [] ∨ hasExtension path = true) : completeFile path stem extension = path := by
  rw [completeFile, if_neg (by simp [hFolder])]
  rcases h with rfl | hExtension
  · rw [List.append_nil, ite_self]
  · rw [if_neg (by simp [hExtension])]

theorem completeFile_of_isFolder {path stem extension : List Char} (h : isFolder path = true) :
    completeFile path stem extension = path ++ (stem ++ extension) := by
  rw [completeFile, if_pos h, List.append_assoc]

theorem completeFile_of_no_extension {path stem extension : List Char} (hFolder : isFolder path = false)
    (h : hasExtension path = false) : completeFile path stem extension = path ++ extension := by
  rw [completeFile, if_neg (by simp [hFolder]), if_pos (by simp [h])]

theorem completeFile_of_folder {before : List Char} (h : before.getLast? = some '/')
    (names : List String) (name extension : List Char) :
    completeFile (before ++ foldersText names) name extension =
      before ++ (foldersText names ++ (name ++ extension)) := by
  rw [completeFile_of_isFolder (isFolder_of_ends (getLast?_append_foldersText h names)),
    List.append_assoc]

section

variable {expanded folders : List Char}

theorem keepFolders_nil : keepFolders expanded [] = expanded :=
  rfl

theorem keepFolders_of_folder (h : isFolder expanded = true) :
    keepFolders expanded folders = expanded ++ folders := by
  rw [keepFolders]
  split
  · rename_i hEmpty
    rw [List.isEmpty_iff.mp hEmpty, List.append_nil]
  · rw [insertFolders, if_pos h]

theorem isFolder_eq_false (hSlash : expanded.getLast? ≠ some '/') (hBackslash : '\\' ∉ expanded) :
    isFolder expanded = false := by
  rw [isFolder, Option.any_eq_false]
  intro c hc
  have hOther : c ≠ '/' := by
    rintro rfl
    exact hSlash hc
  have hForward : c ≠ '\\' := by
    rintro rfl
    exact hBackslash (List.mem_of_getLast? hc)
  simp [isSeparator, hOther, hForward]

theorem isFolder_of_no_separator {segment : List Char} (h : ∀ c ∈ segment, ¬isSeparator c) :
    isFolder segment = false := by
  obtain ⟨hSlash, hBackslash⟩ := no_separator_iff.mp h
  exact isFolder_eq_false (fun hLast => hSlash (List.mem_of_getLast? hLast)) hBackslash

theorem keepFolders_of_no_extension (hFolder : isFolder expanded = false)
    (hExtension : hasExtension expanded = false) (hFolders : folders ≠ []) :
    keepFolders expanded folders = expanded ++ ['/'] ++ folders := by
  rw [keepFolders, if_neg (by simpa using hFolders), insertFolders, if_neg (by simp [hFolder]),
    if_pos (by simp [hExtension])]
  simp

theorem keepFolders_of_extension (hFolder : isFolder expanded = false)
    (hExtension : hasExtension expanded = true) (hFolders : folders ≠ []) :
    keepFolders expanded folders = (splitLeaf expanded).1 ++ folders ++ (splitLeaf expanded).2 := by
  rw [keepFolders, if_neg (by simpa using hFolders), insertFolders, if_neg (by simp [hFolder]),
    if_neg (by simp [hExtension])]

end

/-! ## Places of templates -/

def expandedTemplate (o : Options) (template : String) (source : Path) (root : Option Path) :
    List Char :=
  TemplateValues.expandChars ⟨sourceStem source, o.artifactExtension, root⟩ template.toList

/-- The folders that are put into a place. -/
def keptNames (o : Options) (dir : Path) : List String :=
  if o.keepsFolders then sourceFolders dir else []

theorem isName_of_mem_keptNames {o : Options} {dir : Path} :
    ∀ name ∈ keptNames o dir, IsName name := by
  intro name hName
  unfold keptNames at hName
  split at hName
  · exact isName_of_mem_sourceFolders hName
  · cases hName

theorem placeOfTemplate_eq (o : Options) (template : String) (source dir : Path)
    (root : Option Path) :
    placeOfTemplate o template source dir root =
      completeFile
        (keepFolders (expandedTemplate o template source root) (foldersText (keptNames o dir)))
        (sourceStem source).toList o.artifactExtension.toList := by
  rw [placeOfTemplate, keptNames, toList_subfolders, expandedTemplate]
  cases o.keepsFolders <;> rfl

theorem placeOfTemplate_of_literal (o : Options) {template : String}
    (hEnds : template.toList.getLast? = some '/')
    (hPlain : ∀ placeholder ∈ placeholders, ¬placeholder <:+: template.toList) (source dir : Path)
    (root : Option Path) :
    placeOfTemplate o template source dir root =
      template.toList ++ (foldersText (keptNames o dir) ++
        ((sourceStem source).toList ++ o.artifactExtension.toList)) := by
  rw [placeOfTemplate_eq, expandedTemplate, expandChars_eq_self hPlain,
    keepFolders_of_folder (isFolder_of_ends hEnds), completeFile_of_folder hEnds]

end StylesheetBuild.Artifact
