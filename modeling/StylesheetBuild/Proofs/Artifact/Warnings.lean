import StylesheetBuild.Options.Warning
import StylesheetBuild.Proofs.Artifact.Placement

/-!
# Warnings about folder flags

A folder flag is reported exactly when it is on and no artifact would move if it were off. One half
is read off the two cases of a path. For the other half a source is needed whose artifact does move,
whatever the template and the extension are: both may climb with `..`, and so may the names that are
put into the template, but only as far as their length allows. In a directory that is deep enough
the kept folders outnumber all of that.
-/

namespace StylesheetBuild

open StylesheetBuild.Path Artifact

namespace FolderFlag

/-- The flag has a say in the path of the artifact. -/
def applies : FolderFlag → Options → Bool
  | keepFolderStructure, o => o.hasTemplate
  | sameBaseWithCssFolder, o => !o.hasTemplate

theorem name_injective {flag other : FolderFlag} (h : flag.name = other.name) : flag = other := by
  cases flag <;> cases other <;> first | rfl | exact absurd h (by decide)

theorem isOn_switchOff (flag : FolderFlag) (o : Options) : flag.isOn (flag.switchOff o) = false := by
  cases flag <;> rfl

end FolderFlag

theorem exists_warning_iff (o : Options) (flag : FolderFlag) :
    (∃ w ∈ o.warnings, w.ignored.name = flag.name) ↔
      flag.isOn o = true ∧ flag.applies o = false := by
  have hNames : ∀ w : OptionWarning, w.ignored.name = flag.name ↔ w.ignored = flag := fun w =>
    ⟨FolderFlag.name_injective, congrArg FolderFlag.name⟩
  simp only [hNames, Options.warnings]
  cases flag <;> simp only [FolderFlag.isOn, FolderFlag.applies] <;>
    cases o.keepsFolders <;> cases o.usesCssFolder <;> cases o.hasTemplate <;>
    simp [OptionWarning.ignored]

/-! ## Flags without effect -/

theorem path_switchOff_of_not_applies [WorkingDirectory] {o : Options} {flag : FolderFlag}
    (h : flag.applies o = false) (source dir : Path) (root : Option Path) :
    path (flag.switchOff o) source dir root = path o source dir root := by
  cases flag with
  | keepFolderStructure =>
    have hOn : o.hasTemplate = false := h
    have hOff : (FolderFlag.keepFolderStructure.switchOff o).hasTemplate = false := h
    rw [path_of_no_template hOn, path_of_no_template hOff]
    rfl
  | sameBaseWithCssFolder =>
    obtain ⟨template, hOn⟩ := (hasTemplate_iff o).mp (by simpa [FolderFlag.applies] using h)
    have hOff : (FolderFlag.sameBaseWithCssFolder.switchOff o).outputPath =
        some (.template template) := hOn
    rw [path_of_template hOn, path_of_template hOff]
    rfl

/-! ## Sources that show an effect -/

/-- A `less` folder that lies `depth` folders deep and has as many folders below it. -/
def deepFolders (depth : Nat) : List String :=
  List.replicate depth "a" ++ keptRoot :: List.replicate depth "a"

def deepSource (depth : Nat) : Path :=
  ofNames (deepFolders depth ++ ["a"])

theorem liesIn_deepSource (depth : Nat) : LiesIn (deepSource depth) (deepFolders depth) "a" := by
  refine liesIn_ofNames ?_ (by decide)
  intro name hName
  simp only [deepFolders, List.mem_append, List.mem_replicate, List.mem_cons] at hName
  have hCases : name = "a" ∨ name = keptRoot := by tauto
  rcases hCases with rfl | rfl <;> decide

theorem sourceStem_deepSource (depth : Nat) : sourceStem (deepSource depth) = "a" := by
  rw [sourceStem, stem?, (liesIn_deepSource depth).named]
  decide

theorem sourceFolders_directory_deepSource (depth : Nat) :
    sourceFolders (deepSource depth).directory = List.replicate depth "a" := by
  have hAbove : keptRoot ∉ List.replicate depth "a" := by
    rw [List.mem_replicate]
    rintro ⟨-, hName⟩
    exact absurd hName (by decide)
  rw [sourceFolders_eq (liesIn_deepSource depth).components_directory, deepFolders,
    foldersBelow_eq hAbove]

theorem length_deepFolders (depth : Nat) : (deepFolders depth).length = 2 * depth + 1 := by
  simp [deepFolders]
  omega

/-- The number of names at the end of a walk along the path. -/
def reach (p : Path) (start : List String) : Nat :=
  (p.steps.foldl walk start).length

theorem resolve_ne_of_reach_ne [WorkingDirectory] {base other p q : Path}
    (hBase : base.isAbsolute = true) (hOther : other.isAbsolute = true)
    (h : reach p (startNames base p) ≠ reach q (startNames other q)) :
    base.resolve p ≠ other.resolve q := by
  intro hEq
  have hSame : (base.resolve p).same (other.resolve q) = true := by simp [hEq, same]
  exact h (congrArg List.length (walk_eq_of_resolve_same hBase hOther hSame))

theorem exists_moved_of_usesCssFolder [WorkingDirectory] {o : Options}
    (hOn : o.usesCssFolder = true) (hTemplate : o.hasTemplate = false) :
    ∃ source : Path,
      path (FolderFlag.sameBaseWithCssFolder.switchOff o) source source.directory none ≠
        path o source source.directory none := by
  have hOff : (FolderFlag.sameBaseWithCssFolder.switchOff o).hasTemplate = false := hTemplate
  have hUnused : (FolderFlag.sameBaseWithCssFolder.switchOff o).usesCssFolder = false :=
    FolderFlag.isOn_switchOff .sameBaseWithCssFolder o
  have hExtension : (FolderFlag.sameBaseWithCssFolder.switchOff o).artifactExtension =
      o.artifactExtension := rfl
  obtain ⟨up, down, hWalk⟩ := exists_foldl_walk_eq (⟨"a" ++ o.artifactExtension⟩ : Path).steps
  have hRelative : (⟨"a" ++ o.artifactExtension⟩ : Path).isAbsolute = false := by
    simp [isAbsolute, chars]
  have hDirectory := (liesIn_deepSource up).isAbsolute_directory
  refine ⟨deepSource up, ?_⟩
  rw [path_of_no_template hOff, path_of_no_template hTemplate, hExtension, if_pos hOn,
    if_neg (by simp [hUnused]), sourceStem_deepSource]
  apply resolve_ne_of_reach_ne hDirectory (isAbsolute_joinText hDirectory _)
  rw [reach, reach, hWalk, hWalk, startNames, startNames, hRelative, if_neg Bool.false_ne_true,
    if_neg Bool.false_ne_true, foldedNames_joinText _ isName_cssFolder,
    (liesIn_deepSource up).foldedNames_directory]
  -- the directory is deep enough for the climb to stop below the root
  simp only [List.length_append, List.length_take, length_deepFolders, List.length_singleton]
  omega

/-- The first of the folders in a text may be joined to what stands before it. The others are steps
of their own. -/
theorem steps_foldersText_replicate (before after : List Char) (depth : Nat) :
    (ofChars (before ++ foldersText (List.replicate (depth + 1) "a") ++ after)).steps =
      (ofChars (before ++ ['a'])).steps ++
        ((List.replicate depth "a").map .name ++ (ofChars after).steps) := by
  have hText : before ++ foldersText (List.replicate (depth + 1) "a") ++ after =
      (before ++ ['a']) ++ '/' :: (foldersText (List.replicate depth "a") ++ after) := by
    simp [foldersText, List.replicate_succ]
  have hNames : ∀ name ∈ List.replicate depth "a", IsName name := by
    intro name hName
    rw [(List.mem_replicate.mp hName).2]
    decide
  rw [hText, steps_append_slash, steps_foldersText hNames]

/-- A walk along a text gets further than its start by the folders in it, up to what the text around
them allows. -/
theorem reach_foldersText_replicate (before after : List Char) (depth : Nat)
    (start : List String) :
    let p := ofChars (before ++ foldersText (List.replicate (depth + 1) "a") ++ after)
    start.length + depth ≤ reach p start + (before.length + after.length + 3) ∧
      reach p start ≤ start.length + depth + (before.length + after.length + 3) := by
  intro p
  rw [reach, steps_foldersText_replicate, List.foldl_append, List.foldl_append, foldl_walk_names]
  have hBefore := length_steps_ofChars_le (before ++ ['a'])
  have hAfter := length_steps_ofChars_le after
  rw [List.length_append, List.length_singleton] at hBefore
  generalize (ofChars (before ++ ['a'])).steps = first at hBefore ⊢
  generalize (ofChars after).steps = last at hAfter ⊢
  have hFirst := le_foldl_walk_length first start
  have hFirstLe := foldl_walk_length_le first start
  generalize first.foldl walk start = passed at hFirst hFirstLe ⊢
  have hLast := le_foldl_walk_length last (passed ++ List.replicate depth "a")
  have hLastLe := foldl_walk_length_le last (passed ++ List.replicate depth "a")
  rw [List.length_append, List.length_replicate] at hLast hLastLe
  omega

def deepTemplate (o : Options) (template : String) : List Char :=
  TemplateValues.expandChars ⟨"a", o.artifactExtension, none⟩ template.toList

def deepPlace (o : Options) (template : String) (depth : Nat) : Path :=
  .ofChars (placeOfTemplate o template (deepSource depth) (deepSource depth).directory none)

theorem exists_reach_of_keepsFolders {o : Options} (h : o.keepsFolders = true)
    (template : String) :
    ∃ slack, ∀ depth start,
      start.length + depth ≤ reach (deepPlace o template (depth + 1)) start + slack ∧
        reach (deepPlace o template (depth + 1)) start ≤ start.length + depth + slack := by
  obtain ⟨before, hBefore, hKept⟩ := exists_completeFile_keepFolders_eq (deepTemplate o template)
    "a".toList o.artifactExtension.toList
  refine ⟨before.length + ((deepTemplate o template).length + 1 + "a".toList.length +
    o.artifactExtension.toList.length) + 3, fun depth start => ?_⟩
  have hFolders : foldersText (List.replicate (depth + 1) "a") ≠ [] := by
    simp [foldersText, List.replicate_succ]
  obtain ⟨after, hAfter, hPlaced⟩ := hKept _ hFolders
  have hPlace : deepPlace o template (depth + 1) =
      ofChars (before ++ foldersText (List.replicate (depth + 1) "a") ++ after) := by
    rw [← hPlaced]
    simp only [deepPlace, placeOfTemplate, sourceStem_deepSource, h, if_true, toList_subfolders,
      sourceFolders_directory_deepSource, deepTemplate]
  have hReach := reach_foldersText_replicate before after depth start
  rw [← hPlace] at hReach
  omega

theorem exists_reach_of_not_keepsFolders {o : Options} (h : o.keepsFolders = false)
    (template : String) :
    ∃ slack, ∀ depth start,
      start.length ≤ reach (deepPlace o template depth) start + slack ∧
        reach (deepPlace o template depth) start ≤ start.length + slack := by
  have hPlace : ∀ depth, deepPlace o template depth = ofChars (completeFile
      (deepTemplate o template) "a".toList o.artifactExtension.toList) := by
    intro depth
    simp only [deepPlace, placeOfTemplate, sourceStem_deepSource, h, Bool.false_eq_true, if_false,
      deepTemplate]
  refine ⟨(deepPlace o template 0).steps.length, fun depth start => ?_⟩
  rw [hPlace depth, ← hPlace 0]
  exact ⟨le_foldl_walk_length _ start, foldl_walk_length_le _ start⟩

theorem length_startNames_deepSource (depth : Nat) (p : Path) :
    (startNames (deepSource depth).directory p).length = 0 ∨
      (startNames (deepSource depth).directory p).length = 2 * depth + 1 := by
  rw [startNames, (liesIn_deepSource depth).foldedNames_directory]
  split
  · exact .inl rfl
  · exact .inr (length_deepFolders depth)

theorem exists_moved_of_keepsFolders [WorkingDirectory] {o : Options} {template : String}
    (hOn : o.keepsFolders = true) (hTemplate : o.outputPath = some (.template template)) :
    ∃ source : Path,
      path (FolderFlag.keepFolderStructure.switchOff o) source source.directory none ≠
        path o source source.directory none := by
  let off := FolderFlag.keepFolderStructure.switchOff o
  have hOff : off.outputPath = some (.template template) := hTemplate
  obtain ⟨slack, hFar⟩ := exists_reach_of_keepsFolders hOn template
  have hUnkept : off.keepsFolders = false := FolderFlag.isOn_switchOff .keepFolderStructure o
  obtain ⟨offSlack, hNear⟩ := exists_reach_of_not_keepsFolders hUnkept template
  obtain ⟨depth, hDepth⟩ : ∃ depth, depth = 2 * slack + 2 * offSlack + 1 := ⟨_, rfl⟩
  refine ⟨deepSource (depth + 1), ?_⟩
  have hDirectory := (liesIn_deepSource (depth + 1)).isAbsolute_directory
  rw [path_of_template hOff, path_of_template hTemplate, ← deepPlace, ← deepPlace]
  apply resolve_ne_of_reach_ne hDirectory hDirectory
  -- both are walked from one start, or only one of them from the deep directory
  have hStart := length_startNames_deepSource (depth + 1) (deepPlace o template (depth + 1))
  have hOffStart := length_startNames_deepSource (depth + 1) (deepPlace off template (depth + 1))
  obtain ⟨hFarGe, hFarLe⟩ := hFar depth
    (startNames (deepSource (depth + 1)).directory (deepPlace o template (depth + 1)))
  obtain ⟨hNearGe, hNearLe⟩ := hNear (depth + 1)
    (startNames (deepSource (depth + 1)).directory (deepPlace off template (depth + 1)))
  omega

/-- A folder flag is reported exactly when it is on and no artifact would move if it were off. -/
theorem warned_iff_no_effect [WorkingDirectory] (o : Options) (flag : FolderFlag) :
    (∃ w ∈ o.warnings, w.ignored.name = flag.name) ↔
      flag.isOn o = true ∧ ∀ source sourceDir root,
        path (flag.switchOff o) source sourceDir root = path o source sourceDir root := by
  rw [exists_warning_iff]
  constructor
  · rintro ⟨hOn, hApplies⟩
    exact ⟨hOn, path_switchOff_of_not_applies hApplies⟩
  · rintro ⟨hOn, hStays⟩
    refine ⟨hOn, ?_⟩
    by_contra hApplies
    rw [Bool.not_eq_false] at hApplies
    cases flag with
    | keepFolderStructure =>
      obtain ⟨template, hTemplate⟩ := (hasTemplate_iff o).mp hApplies
      obtain ⟨source, hMoved⟩ := exists_moved_of_keepsFolders hOn hTemplate
      exact hMoved (hStays source source.directory none)
    | sameBaseWithCssFolder =>
      have hTemplate : o.hasTemplate = false := by simpa [FolderFlag.applies] using hApplies
      obtain ⟨source, hMoved⟩ := exists_moved_of_usesCssFolder hOn hTemplate
      exact hMoved (hStays source source.directory none)

end StylesheetBuild
