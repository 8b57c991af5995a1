import StylesheetBuild.Artifact.Path
import StylesheetBuild.Proofs.Path.Folding
import StylesheetBuild.Proofs.Text.Replacement

/-!
# Places of artifacts

An artifact path is the source directory walked along the steps of one text: the expanded template
with the kept folders put into it and a file name at its end. Here that text is taken apart. The
folders go in at one place, which the template alone decides, and each of them is a step of its own.
-/

namespace StylesheetBuild.Artifact

open StylesheetBuild.Path

/-! ## The kept folders -/

theorem foldersBelow_eq {above : List String} (h : keptRoot ∉ above) (below : List String) :
    foldersBelow (above ++ keptRoot :: below) = below := by
  have hBefore : ∀ name ∈ above, (name != keptRoot) = true :=
    fun _ hName => bne_iff_ne.mpr (ne_of_mem_of_not_mem hName h)
  rw [foldersBelow, List.dropWhile_append_of_pos hBefore, List.dropWhile_cons_of_neg (by simp)]
  rfl

theorem sourceFolders_eq {dir : Path} {names : List String}
    (h : dir.components = .root :: names.map .name) : sourceFolders dir = foldersBelow names := by
  have hAbsolute : dir.isAbsolute = true := by rw [isAbsolute_iff, h, List.head?_cons]
  rw [components_eq_of_isAbsolute hAbsolute] at h
  rw [sourceFolders, (List.cons.inj h).2, List.filterMap_map]
  congr 1
  exact List.filterMap_some

theorem isName_of_mem_sourceFolders {dir : Path} {name : String} (h : name ∈ sourceFolders dir) :
    IsName name := by
  have hSteps := (List.dropWhile_suffix _).subset (List.drop_subset 1 _ h)
  obtain ⟨step, hStep, hName⟩ := List.mem_filterMap.mp hSteps
  cases step with
  | name s =>
    cases hName
    exact isName_of_mem_steps hStep
  | _ => cases hName

/-- Folder names as they stand in a path, each followed by a slash. -/
def foldersText (names : List String) : List Char :=
  names.flatMap fun name => name.toList ++ ['/']

theorem toList_subfolders (dir : Path) :
    (subfolders dir).toList = foldersText (sourceFolders dir) := by
  rw [subfolders, String.toList_intercalate, List.map_map]
  induction sourceFolders dir with
  | nil => rfl
  | cons name names ih =>
    rw [foldersText, List.flatMap_cons, ← foldersText, ← ih]
    cases names <;> simp

theorem steps_foldersText {names : List String} (h : ∀ name ∈ names, IsName name)
    (after : List Char) :
    (ofChars (foldersText names ++ after)).steps = names.map .name ++ (ofChars after).steps := by
  induction names with
  | nil => rfl
  | cons name names ih =>
    have hText : foldersText (name :: names) ++ after =
        name.toList ++ '/' :: (foldersText names ++ after) := by
      simp [foldersText]
    rw [hText, steps_append_slash, (h name (by simp)).steps_ofChars,
      ih fun other hOther => h other (List.mem_cons_of_mem _ hOther)]
    rfl

theorem getLast?_append_foldersText {before : List Char} (h : before.getLast? = some '/')
    (names : List String) : (before ++ foldersText names).getLast? = some '/' := by
  rcases List.eq_nil_or_concat names with rfl | ⟨names, name, rfl⟩
  · simpa [foldersText] using h
  · simp [foldersText, List.getLast?_append]

/-! ## Templates without placeholders -/

def placeholders : List (List Char) :=
  [namePlaceholder, extensionPlaceholder, firstPlaceholder, secondPlaceholder] ++
    workspacePlaceholders

theorem expandWorkspace_eq_self {root : Option Path} {text : List Char}
    (h : root = none ∨ ∀ placeholder ∈ workspacePlaceholders, ¬placeholder <:+: text) :
    expandWorkspace root text = text := by
  unfold expandWorkspace
  split
  · rfl
  · have hPlain := h.resolve_left (by simp)
    rw [workspacePlaceholders, List.foldl_cons, List.foldl_cons, List.foldl_nil,
      Text.replaceAll_eq_self (hPlain _ (by simp [workspacePlaceholders])),
      Text.replaceAll_eq_self (hPlain _ (by simp [workspacePlaceholders]))]

theorem expandChars_eq_self {template : List Char}
    (h : ∀ placeholder ∈ placeholders, ¬placeholder <:+: template) (values : TemplateValues) :
    values.expandChars template = template := by
  have hNames : expandNames values.name.toList values.extension.toList template = template := by
    rw [expandNames, Text.replaceAll_eq_self (h _ (by simp [placeholders])),
      Text.replaceAll_eq_self (h _ (by simp [placeholders])),
      Text.replaceFirst_eq_self (h _ (by simp [placeholders])),
      Text.replaceFirst_eq_self (h _ (by simp [placeholders]))]
  rw [TemplateValues.expandChars, hNames]
  exact expandWorkspace_eq_self (.inr fun placeholder hWorkspace =>
    h placeholder (List.mem_append_right _ hWorkspace))

/-! ## The text of a place -/

/-- Where folders go into a path does not depend on the folders. -/
theorem exists_keepFolders_eq (path : List Char) :
    ∃ before after, before.length + after.length ≤ path.length + 1 ∧
      ∀ folders, folders ≠ [] → keepFolders path folders = before ++ folders ++ after := by
  have hKept : ∀ folders, folders ≠ [] → keepFolders path folders = insertFolders path folders := by
    intro folders hFolders
    rw [keepFolders, if_neg (by simpa using hFolders)]
  by_cases hFolder : isFolder path = true
  · refine ⟨path, [], by simp, fun folders hFolders => ?_⟩
    rw [hKept folders hFolders, insertFolders, if_pos hFolder, List.append_nil]
  · by_cases hExtension : hasExtension path = true
    · refine ⟨(splitLeaf path).1, (splitLeaf path).2, ?_, fun folders hFolders => ?_⟩
      · simp only [splitLeaf, List.length_reverse, List.length_drop]
        have hLeaf := (List.takeWhile_prefix (l := path.reverse) (!isSeparator ·)).length_le
        rw [List.length_reverse] at hLeaf
        omega
      · rw [hKept folders hFolders, insertFolders, if_neg hFolder, if_neg (by simp [hExtension])]
    · refine ⟨path ++ ['/'], [], by simp, fun folders hFolders => ?_⟩
      rw [hKept folders hFolders, insertFolders, if_neg hFolder, if_pos (by simp [hExtension])]
      simp

theorem exists_completeFile_eq (path name extension : List Char) :
    ∃ suffix, suffix.length ≤ name.length + extension.length ∧
      completeFile path name extension = path ++ suffix := by
  unfold completeFile
  split
  · exact ⟨name ++ extension, by simp, by simp⟩
  · split
    · exact ⟨extension, by simp, rfl⟩
    · exact ⟨[], by simp, by simp⟩

/-- A completed place with kept folders in it: nothing around the folders is longer than the
template and the file name allow. -/
theorem exists_completeFile_keepFolders_eq (path name extension : List Char) :
    ∃ before, before.length ≤ path.length + 1 ∧ ∀ folders, folders ≠ [] →
      ∃ after, after.length ≤ path.length + 1 + name.length + extension.length ∧
        completeFile (keepFolders path folders) name extension = before ++ folders ++ after := by
  obtain ⟨before, after, hLength, hKept⟩ := exists_keepFolders_eq path
  refine ⟨before, by omega, fun folders hFolders => ?_⟩
  obtain ⟨suffix, hSuffixLength, hSuffix⟩ :=
    exists_completeFile_eq (keepFolders path folders) name extension
  refine ⟨after ++ suffix, ?_, ?_⟩
  · rw [List.length_append]
    omega
  · rw [hSuffix, hKept folders hFolders, List.append_assoc]

/-! ## What a path depends on -/

theorem hasTemplate_iff (o : Options) :
    o.hasTemplate = true ↔ ∃ template, o.outputPath = some (.template template) := by
  unfold Options.hasTemplate
  split <;> simp_all

theorem path_of_template [WorkingDirectory] {o : Options} {template : String}
    (h : o.outputPath = some (.template template)) (source sourceDir : Path)
    (root : Option Path) :
    path o source sourceDir root =
      sourceDir.resolve (.ofChars (placeOfTemplate o template source sourceDir root)) := by
  rw [path, h]

theorem path_of_no_template [WorkingDirectory] {o : Options} (h : o.hasTemplate = false)
    (source sourceDir : Path) (root : Option Path) :
    path o source sourceDir root =
      (if o.usesCssFolder then sourceDir.joinText cssFolder else sourceDir).resolve
        ⟨sourceStem source ++ o.artifactExtension⟩ := by
  unfold path
  split
  · rename_i template hTemplate
    rw [← Bool.not_eq_true, hasTemplate_iff] at h
    exact absurd ⟨template, hTemplate⟩ h
  · rfl

theorem isName_cssFolder : IsName cssFolder := by decide

/-- The source counts only through its file name and the directory only through its folded names,
unless the folders of its spelling are kept. -/
theorem path_congr [WorkingDirectory] {o : Options} {root : Option Path}
    {source other dir otherDir : Path}
    (hName : source.fileName? = other.fileName?) (hDir : dir.isAbsolute = true)
    (hOther : otherDir.isAbsolute = true) (hFolded : dir.foldedNames = otherDir.foldedNames)
    (hFolders : o.hasTemplate = true → o.keepsFolders = true →
      sourceFolders dir = sourceFolders otherDir) :
    path o source dir root = path o other otherDir root := by
  have hStem : sourceStem source = sourceStem other := by
    rw [sourceStem, sourceStem, stem?, stem?, hName]
  by_cases hTemplate : o.hasTemplate = true
  · obtain ⟨template, hText⟩ := (hasTemplate_iff o).mp hTemplate
    have hPlace : placeOfTemplate o template source dir root =
        placeOfTemplate o template other otherDir root := by
      unfold placeOfTemplate
      rw [hStem]
      by_cases hKeep : o.keepsFolders = true
      · rw [toList_subfolders, toList_subfolders, hFolders hTemplate hKeep]
      · simp [hKeep]
    rw [path_of_template hText, path_of_template hText, hPlace, resolve_eq hDir,
      resolve_eq hOther, startNames, startNames, hFolded]
  · rw [Bool.not_eq_true] at hTemplate
    rw [path_of_no_template hTemplate, path_of_no_template hTemplate, hStem]
    cases o.usesCssFolder with
    | true =>
      rw [if_pos rfl, if_pos rfl, resolve_eq (isAbsolute_joinText hDir _),
        resolve_eq (isAbsolute_joinText hOther _), startNames, startNames,
        foldedNames_joinText _ isName_cssFolder, foldedNames_joinText _ isName_cssFolder, hFolded]
    | false =>
      rw [if_neg Bool.false_ne_true, if_neg Bool.false_ne_true, resolve_eq hDir,
        resolve_eq hOther, startNames, startNames, hFolded]

end StylesheetBuild.Artifact
