import StylesheetBuild.Proofs.Settings.Searching
import StylesheetBuild.Toml.Reader

/-!
# Spellings of a document path

The settings of a document are looked for in the directories that its spelling passes, from the last
one upwards. All directories above the document are among them, but so is every folder that a `..`
leaves again. Two spellings of a document have the same settings as long as the file that is found
lies above the document.
-/

namespace StylesheetBuild.Settings

open StylesheetBuild.Path FileTree

section

variable {t : FileTree}

/-- The directory holds the path, perhaps in directories of its own. -/
def IsAbove (dir p : Path) : Prop :=
  dir.foldedNames <+: p.foldedNames ∧ dir.foldedNames ≠ p.foldedNames

theorem isAbove_iff (dir p : Path) :
    IsAbove dir p ↔ p.foldedNames ≠ [] ∧ dir.foldedNames <+: p.foldedNames.dropLast := by
  rw [IsAbove]
  rcases List.eq_nil_or_concat p.foldedNames with hNone | ⟨before, last, hNames⟩
  · simp [hNone]
  · rw [hNames, List.concat_eq_append, List.dropLast_concat, List.prefix_concat_iff]
    constructor
    · rintro ⟨hWhole | hBefore, hOther⟩
      · exact absurd hWhole hOther
      · exact ⟨by simp, hBefore⟩
    · rintro ⟨-, hBefore⟩
      refine ⟨.inr hBefore, fun hWhole => ?_⟩
      have hLength := hBefore.length_le
      simp [hWhole] at hLength

variable {cwd : Place} {p : Path} {found other : Option Path}

/-- The spelling passes every directory above the path. -/
theorem exists_parent_of_isAbove (hAbsolute : p.isAbsolute = true) {dir : Path}
    (hAbove : IsAbove dir p) : ∃ last ∈ p.parent?, dir.foldedNames <+: last.foldedNames := by
  obtain ⟨hSome, hPrefix⟩ := (isAbove_iff dir p).mp hAbove
  cases hParent : p.parent? with
  | none =>
    rw [foldedNames_eq, steps_eq, trunk_of_parent?_eq_none hParent] at hSome
    exact absurd rfl hSome
  | some parent =>
    refine ⟨parent, rfl, hPrefix.trans ?_⟩
    obtain ⟨last, hLast⟩ := steps_of_parent? hAbsolute hParent
    rw [foldedNames_eq, foldedNames_eq, hLast, List.foldl_append, List.foldl_cons, List.foldl_nil]
    cases last with
    | name s => exact ⟨[], by simp [walk]⟩
    | parent => exact (List.dropLast_prefix _).trans (List.dropLast_prefix _)
    | root => exact List.dropLast_prefix _
    | current => exact List.dropLast_prefix _

theorem parent?_folded [WorkingDirectory] (hAbsolute : p.isAbsolute = true) :
    p.folded.parent? =
      if p.foldedNames = [] then none else some (.ofNames p.foldedNames.dropLast) := by
  rw [folded_eq hAbsolute, parent?_ofNames fun _ => isName_of_mem_foldedNames]

theorem isName_of_mem_dropLast : ∀ name ∈ p.foldedNames.dropLast, IsName name :=
  fun _ hName => isName_of_mem_foldedNames (List.dropLast_subset _ hName)

theorem searchable_parent?_folded [WorkingDirectory] (hAbsolute : p.isAbsolute = true)
    (hDirs : ∀ dir ∈ p.parent?, Searchable t dir) : ∀ up ∈ p.folded.parent?, Searchable t up := by
  rw [parent?_folded hAbsolute]
  intro up hUp
  split at hUp
  · cases hUp
  rename_i hSome
  cases hUp
  have hAbove : IsAbove (.ofNames p.foldedNames.dropLast) p := by
    rw [isAbove_iff, foldedNames_ofNames isName_of_mem_dropLast]
    exact ⟨hSome, List.prefix_refl _⟩
  obtain ⟨last, hLast, hPrefix⟩ := exists_parent_of_isAbove hAbsolute hAbove
  rw [foldedNames_ofNames isName_of_mem_dropLast] at hPrefix
  exact (hDirs last hLast).ofNames hPrefix

theorem isAbove_of_mem_folded [WorkingDirectory] (hAbsolute : p.isAbsolute = true)
    (hDirs : ∀ dir ∈ p.parent?, Searchable t dir)
    (h : NearestAbove (t.snapshot cwd) p.folded.parent? other) :
    ∀ up ∈ other, IsAbove up p ∧ up.steps = up.foldedNames.map .name := by
  intro up hUp
  obtain ⟨-, -, start, hStart, hSteps⟩ :=
    h.searchable (searchable_parent?_folded hAbsolute hDirs) up hUp
  rw [parent?_folded hAbsolute] at hStart
  split at hStart
  · cases hStart
  rename_i hSome
  cases hStart
  rw [steps_ofNames isName_of_mem_dropLast] at hSteps
  obtain ⟨passed, hPassed, hOwn⟩ := List.prefix_map_iff.mp hSteps
  have hNames : up.foldedNames = passed := by
    rw [foldedNames_eq, hOwn, foldl_walk_names, List.nil_append]
  rw [isAbove_iff, hNames]
  exact ⟨⟨hSome, hPassed⟩, hOwn⟩

theorem unmarked_of_folded [WorkingDirectory] (hAbsolute : p.isAbsolute = true)
    (hDirs : ∀ dir ∈ p.parent?, Searchable t dir)
    (h : NearestAbove (t.snapshot cwd) p.folded.parent? other) {dir : Path} (hAbove : IsAbove dir p)
    (hBelow : ∀ up ∈ other, up.foldedNames.length < dir.foldedNames.length) :
    marked t dir.foldedNames = false := by
  obtain ⟨hSome, hPrefix⟩ := (isAbove_iff dir p).mp hAbove
  have hParent : p.folded.parent? = some (.ofNames p.foldedNames.dropLast) := by
    rw [parent?_folded hAbsolute, if_neg hSome]
  have hSteps : dir.foldedNames.map .name <+: (Path.ofNames p.foldedNames.dropLast).steps := by
    rw [steps_ofNames isName_of_mem_dropLast]
    exact hPrefix.map _
  have hUnmarked := h.unmarked (searchable_parent?_folded hAbsolute hDirs) hParent hSteps
    fun up hUp => by
      rw [(isAbove_of_mem_folded hAbsolute hDirs h up hUp).2, List.length_map, List.length_map]
      exact hBelow up hUp
  rwa [foldl_walk_names, List.nil_append] at hUnmarked

theorem unmarked_of_spelled (hAbsolute : p.isAbsolute = true)
    (hDirs : ∀ dir ∈ p.parent?, Searchable t dir)
    (h : NearestAbove (t.snapshot cwd) p.parent? found) {up : Path} (hAbove : IsAbove up p)
    (hBelow : ∀ dir ∈ found, dir.foldedNames <+: up.foldedNames ∧
      dir.foldedNames ≠ up.foldedNames) :
    marked t up.foldedNames = false := by
  obtain ⟨last, hLast, hPrefix⟩ := exists_parent_of_isAbove hAbsolute hAbove
  rw [last.foldedNames_eq] at hPrefix
  cases found with
  | none =>
    obtain ⟨steps, hSteps, hNames⟩ := exists_isPrefix_foldl_walk_eq List.nil_prefix hPrefix
    rw [← hNames]
    exact h.unmarked hDirs hLast hSteps (by simp)
  | some dir =>
    obtain ⟨hShorter, hOther⟩ := hBelow dir rfl
    obtain ⟨-, -, start, hStart, more, hMore⟩ := h.searchable hDirs dir rfl
    obtain rfl : start = last := Option.mem_unique hStart hLast
    -- Between `dir` and the end of the spelling the walk passes `up` once more.
    rw [← hMore, List.foldl_append, ← foldedNames_eq] at hPrefix
    obtain ⟨steps, hSteps, hNames⟩ := exists_isPrefix_foldl_walk_eq hShorter hPrefix
    have hWhole : (dir.steps ++ steps).foldl walk [] = up.foldedNames := by
      rw [List.foldl_append, ← foldedNames_eq, hNames]
    rw [← hWhole]
    apply h.unmarked hDirs hStart
    · rw [← hMore]
      exact (List.prefix_append_right_inj _).mpr hSteps
    · rintro _ ⟨⟩
      have hSome : steps ≠ [] := by
        rintro rfl
        exact hOther hNames
      rw [List.length_append]
      have hLength := List.length_pos_iff.mpr hSome
      omega

/-- The directory found from a spelling is the one found from the folded path just when it lies
above the path at all. -/
theorem nearest_folded_iff [WorkingDirectory] (hAbsolute : p.isAbsolute = true)
    (hDirs : ∀ dir ∈ p.parent?, Searchable t dir)
    (h : NearestAbove (t.snapshot cwd) p.parent? found)
    (hFolded : NearestAbove (t.snapshot cwd) p.folded.parent? other) :
    found.map foldedNames = other.map foldedNames ↔ ∀ dir ∈ found, IsAbove dir p := by
  constructor
  · rintro hSame dir rfl
    obtain ⟨up, hUp, hNames⟩ := Option.map_eq_some_iff.mp hSame.symm
    have hAbove := (isAbove_of_mem_folded hAbsolute hDirs hFolded up hUp).1
    rwa [IsAbove, hNames] at hAbove
  intro hAbove
  cases hOther : other with
  | none =>
    cases hFound : found with
    | none => rfl
    | some dir =>
      have hUnmarked := unmarked_of_folded hAbsolute hDirs hFolded (hAbove dir hFound)
        (by simp [hOther])
      rw [(h.searchable hDirs dir hFound).2.1] at hUnmarked
      cases hUnmarked
  | some up =>
    have hUp := (isAbove_of_mem_folded hAbsolute hDirs hFolded up hOther).1
    have hMarkedUp := (hFolded.searchable (searchable_parent?_folded hAbsolute hDirs) up hOther).2.1
    cases hFound : found with
    | none =>
      rw [unmarked_of_spelled hAbsolute hDirs h hUp (by simp [hFound])] at hMarkedUp
      cases hMarkedUp
    | some dir =>
      have hDir := hAbove dir hFound
      -- Both lie above the path. If one lay below the other, the search from the other spelling
      -- would have come upon it first.
      rcases Nat.lt_trichotomy dir.foldedNames.length up.foldedNames.length with
        hLower | hSame | hHigher
      · have hShorter := List.prefix_of_prefix_length_le hDir.1 hUp.1 hLower.le
        have hUnmarked := unmarked_of_spelled hAbsolute hDirs h hUp fun start hStart => by
          obtain rfl := Option.mem_unique hFound hStart
          exact ⟨hShorter, fun hNames => by simp [hNames] at hLower⟩
        rw [hMarkedUp] at hUnmarked
        cases hUnmarked
      · have hNames := (List.prefix_of_prefix_length_le hDir.1 hUp.1 hSame.le).eq_of_length hSame
        simp [hNames]
      · have hUnmarked := unmarked_of_folded hAbsolute hDirs hFolded hDir (by simpa [hOther])
        rw [(h.searchable hDirs dir hFound).2.1] at hUnmarked
        cases hUnmarked

/-- The same options for the same workspace, however its directory is spelled. -/
def SameScope [WorkingDirectory] : Option ScopedSettings → Option ScopedSettings → Prop
  | none, none => True
  | some s, some other => s.options = other.options ∧
      s.workspaceRoot.map folded = other.workspaceRoot.map folded
  | _, _ => False

theorem forall_workspaceRoot_combine (global : Option Options) (workspace : Option (Options × Path))
    (P : Path → Prop) :
    (∀ s ∈ combine global workspace, ∀ root ∈ s.workspaceRoot, P root) ↔
      ∀ w ∈ workspace, P w.2 := by
  cases global <;> cases workspace <;> simp [combine]

theorem sameScope_combine_iff [WorkingDirectory] (global : Option Options)
    (workspace other : Option (Options × Path)) :
    SameScope (combine global workspace) (combine global other) ↔
      workspace.map (fun w => ((global.getD .empty).merge w.1, w.2.folded)) =
        other.map fun w => ((global.getD .empty).merge w.1, w.2.folded) := by
  cases global <;> cases workspace <;> cases other <;> simp [combine, SameScope]

/-- A spelling that never goes up passes nothing but the directories above the path. -/
theorem isAbove_of_no_parent (hAbsolute : p.isAbsolute = true)
    (hDirs : ∀ dir ∈ p.parent?, Searchable t dir) (hParent : .parent ∉ p.steps)
    (h : NearestAbove (t.snapshot cwd) p.parent? found) : ∀ dir ∈ found, IsAbove dir p := by
  intro dir hDir
  obtain ⟨-, -, start, hStart, hSteps⟩ := h.searchable hDirs dir hDir
  obtain ⟨last, hLast⟩ := steps_of_parent? hAbsolute hStart
  have hPrefix : dir.steps <+: p.steps := by
    rw [hLast]
    exact hSteps.trans (List.prefix_append _ _)
  have hLastStep : last ∈ p.steps := by simp [hLast]
  obtain ⟨name, rfl⟩ := (parent_or_name_of_mem_steps hLastStep).resolve_left
    (by rintro rfl; exact hParent hLastStep)
  have hNames : p.foldedNames = start.steps.filterMap Component.name? ++ [name] := by
    rw [foldedNames_eq, foldl_walk_of_no_parent hParent, hLast, List.filterMap_append]
    rfl
  rw [isAbove_iff, hNames, List.dropLast_concat, foldedNames_eq,
    foldl_walk_of_no_parent fun hStep => hParent (hPrefix.subset hStep)]
  exact ⟨by simp, hSteps.filterMap _⟩

theorem folded_eq_iff [WorkingDirectory] {other : Path} (hAbsolute : p.isAbsolute = true)
    (hOther : other.isAbsolute = true) :
    p.folded = other.folded ↔ p.foldedNames = other.foldedNames := by
  rw [folded_eq hAbsolute, folded_eq hOther]
  constructor
  · intro hSame
    have hNames := congrArg foldedNames hSame
    rwa [foldedNames_ofNames fun _ => isName_of_mem_foldedNames,
      foldedNames_ofNames fun _ => isName_of_mem_foldedNames] at hNames
  · exact congrArg ofNames

theorem sameScope_iff [WorkingDirectory] (decode : Decoder) (global : Option Path)
    (hAbsolute : p.isAbsolute = true) (hDirs : ∀ dir ∈ p.parent?, Searchable t dir)
    (h : NearestAbove (t.snapshot cwd) p.parent? found) :
    SameScope (settingsIn decode t cwd global p) (settingsIn decode t cwd global p.folded) ↔
      ∀ dir ∈ found, IsAbove dir p := by
  obtain ⟨own, hOwn, hSettings⟩ := settingsIn_eq decode t cwd global p
  obtain rfl := h.unique hOwn
  obtain ⟨other, hOther, hFolded⟩ := settingsIn_eq decode t cwd global p.folded
  rw [← nearest_folded_iff hAbsolute hDirs h hOther, hSettings, hFolded, sameScope_combine_iff]
  have hFoundDirs := h.searchable hDirs
  have hOtherDirs := hOther.searchable (searchable_parent?_folded hAbsolute hDirs)
  cases found with
  | none => cases other <;> simp
  | some dir =>
    cases other with
    | none => simp
    | some up =>
      have hDir := (hFoundDirs dir rfl).1
      have hUp := (hOtherDirs up rfl).1
      simp only [Option.map_some, Option.some.injEq, Prod.mk.injEq,
        folded_eq_iff hDir.isAbsolute hUp.isAbsolute]
      constructor
      · exact fun hBoth => hBoth.2
      · exact fun hNames => ⟨by rw [hDir.layer_congr decode hUp cwd hNames], hNames⟩

/-- A document has the settings of its folded path just when they come from above it, and so it
does if its spelling never goes up. -/
theorem settings_folded_iff [WorkingDirectory] (decode : Decoder) (t : FileTree) (cwd : Place)
    (global : Option Path) (p : Path) (hAbsolute : p.isAbsolute = true)
    (hDirectories : ∀ dir ∈ p.parent?, t.isDirectory cwd dir = true)
    (hLength : ∀ dir ∈ p.parent?, (dir.joinText fileName).text.utf8ByteSize ≤ pathLimit) :
    (SameScope (settingsIn decode t cwd global p) (settingsIn decode t cwd global p.folded) ↔
      ∀ s ∈ settingsIn decode t cwd global p, ∀ root ∈ s.workspaceRoot, IsAbove root p) ∧
    (.parent ∉ p.steps →
      SameScope (settingsIn decode t cwd global p) (settingsIn decode t cwd global p.folded)) := by
  have hDirs := searchable_parent? hAbsolute hDirectories hLength
  obtain ⟨found, hFound, hSettings⟩ := settingsIn_eq decode t cwd global p
  have hSame := sameScope_iff decode global hAbsolute hDirs hFound
  refine ⟨hSame.trans ?_, fun hParent => hSame.mpr ?_⟩
  · rw [hSettings, forall_workspaceRoot_combine]
    simp
  · exact isAbove_of_no_parent hAbsolute hDirs hParent hFound

/-- A workspace with one folder, and a settings file in one of the two. -/
def workspaceTree (place : Place) (text : String) : FileTree :=
  ((FileTree.empty.set ["ws"] .directory).set ["ws", "a"] .directory).set (place ++ [fileName])
    (.file text.toUTF8)

section

attribute [local instance] WorkingDirectory.root

/-- The folder that is entered and left again does not matter without settings of its own. -/
theorem settings_folded_passed_folder :
    let t := workspaceTree ["ws"] "[compile]\nkeepFolderStructure = true\n"
    let p : Path := ⟨"/ws/./a/..//main.less"⟩
    p.isAbsolute = true ∧ (settingsIn Toml.parse? t [] none p).isSome = true ∧
      SameScope (settingsIn Toml.parse? t [] none p)
        (settingsIn Toml.parse? t [] none p.folded) := by
  intro t p
  have hAbsolute : p.isAbsolute = true := by decide +kernel
  have hDirectories : ∀ dir ∈ p.parent?, t.isDirectory [] dir = true := by decide +kernel
  have hLength : ∀ dir ∈ p.parent?, (dir.joinText fileName).text.utf8ByteSize ≤ pathLimit := by
    decide +kernel
  have hSettings : (settingsIn Toml.parse? t [] none p).isSome = true := by decide +kernel
  have hRoot : (settingsIn Toml.parse? t [] none p).map ScopedSettings.workspaceRoot =
      some (some ⟨"/ws/./a/.."⟩) := by
    decide +kernel
  have hAbove : IsAbove ⟨"/ws/./a/.."⟩ p := by
    rw [IsAbove]
    decide +kernel
  refine ⟨hAbsolute, hSettings,
    (settings_folded_iff Toml.parse? t [] none p hAbsolute hDirectories hLength).1.mpr ?_⟩
  intro s hOwn root hMember
  rw [hOwn, Option.map_some, Option.some.injEq, hMember, Option.some.injEq] at hRoot
  rwa [hRoot]

/-- Settings of the folder that is entered and left again are those of the document. -/
theorem settings_ne_folded_passed_folder :
    let t := workspaceTree ["ws", "a"] "[compile]\noutputExtension = \"wxss\"\n"
    let p : Path := ⟨"/ws/a/../main.less"⟩
    p.isAbsolute = true ∧ p.parent?.any (t.isDirectory []) = true ∧
      p.folded = ⟨"/ws/main.less"⟩ ∧
      (settingsIn Toml.parse? t [] none p).map
          (fun s => (s.options.outputExtension, s.workspaceRoot)) =
        some (some "wxss", some ⟨"/ws/a"⟩) ∧
      (settingsIn Toml.parse? t [] none p.folded).isNone = true ∧
      ¬SameScope (settingsIn Toml.parse? t [] none p)
        (settingsIn Toml.parse? t [] none p.folded) := by
  intro t p
  have hSpelled : (settingsIn Toml.parse? t [] none p).map
      (fun s => (s.options.outputExtension, s.workspaceRoot)) =
        some (some "wxss", some ⟨"/ws/a"⟩) := by
    decide +kernel
  have hFolded : (settingsIn Toml.parse? t [] none p.folded).isNone = true := by decide +kernel
  refine ⟨by decide +kernel, by decide +kernel, by decide +kernel, hSpelled, hFolded, ?_⟩
  obtain ⟨s, hSome, -⟩ := Option.map_eq_some_iff.mp hSpelled
  rw [hSome, Option.isNone_iff_eq_none.mp hFolded]
  exact id

end

end

end StylesheetBuild.Settings
