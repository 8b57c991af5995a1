import StylesheetBuild.Proofs.Files.Following
import StylesheetBuild.Proofs.Files.Snapshot
import StylesheetBuild.Proofs.Settings.Precedence

/-!
# Searching a tree for settings

The search for a settings file only reads, so its answer depends on the contents of the tree. In a
tree without links a directory on the way has a settings file just when one stands at the names that
the directory folds to, and the search ends at the first such directory.
-/

namespace StylesheetBuild.Settings

open StylesheetBuild.Path FileTree

theorem reads_load? (decode : Decoder) (t : FileTree) (cwd : Place) (p : Path) :
    t.Reads (load? decode (fileSystem cwd) p) (load? decode (t.snapshot cwd) p) := by
  refine .bind ?_ fun _ => .pure _
  refine .bind (.readText cwd p) fun text => ?_
  cases text with
  | error e => exact .pure _
  | ok text =>
    cases hOptions : parse? decode text with
    | none => simpa only [hOptions] using .pure _
    | some o => simpa only [hOptions] using .pure _

theorem reads_globalLayer? (decode : Decoder) (t : FileTree) (cwd : Place) (global : Option Path) :
    t.Reads (globalLayer? decode (fileSystem cwd) global)
      (globalLayer? decode (t.snapshot cwd) global) := by
  cases global with
  | none => exact .pure none
  | some file =>
    refine .bind (.isFile cwd file) fun isFile => ?_
    cases isFile with
    | false => exact .pure none
    | true => exact reads_load? decode t cwd file

theorem reads_workspace? (decode : Decoder) (t : FileTree) (cwd : Place) (document : Path) :
    t.Reads (workspace? decode (fileSystem cwd) document)
      (workspace? decode (t.snapshot cwd) document) := by
  rw [workspace?, workspace?]
  cases document.parent? with
  | none => exact .pure none
  | some dir =>
    refine .bind (.findM? (.isFile cwd) _) fun found => ?_
    cases found with
    | none => exact .pure none
    | some file => exact .bind (reads_load? decode t cwd file) fun _ => .pure _

/-- Finding settings changes nothing in the tree and depends on its contents only. -/
theorem reads_lookup (decode : Decoder) (t : FileTree) (cwd : Place) (global : Option Path)
    (document : Path) :
    t.Reads (lookup decode (fileSystem cwd) global document)
      (lookup decode (t.snapshot cwd) global document) :=
  .bind (reads_globalLayer? decode t cwd global) fun _ =>
    .bind (reads_workspace? decode t cwd document) fun _ => .pure _

section

variable {t : FileTree}

/-- A settings file stands in the directory with the given names. -/
def marked (t : FileTree) (names : List String) : Bool :=
  match t.node? (names ++ [fileName]) with
  | some (.file _) => true
  | _ => false

/-- A directory that is there, and whose settings file has a path that is not refused. -/
structure Searchable (t : FileTree) (dir : Path) : Prop where
  isAbsolute : dir.isAbsolute = true
  isTrimmed : dir.IsTrimmed
  walkable : t.Walkable [] dir.steps
  accepted : checkPath (dir.joinText fileName) = .ok ()

namespace Searchable

variable {dir other : Path}

theorem lookup_eq (h : Searchable t dir) (cwd : Place) :
    t.lookup cwd (dir.joinText fileName) =
      match t.node? (dir.foldedNames ++ [fileName]) with
      | some node => .ok (dir.foldedNames ++ [fileName], node)
      | none => .error .notFound :=
  lookup_joinText cwd h.isAbsolute h.isTrimmed h.walkable (by decide) (by decide) h.accepted

theorem isFile_eq (h : Searchable t dir) (cwd : Place) :
    ((t.snapshot cwd).isFile (dir.joinText fileName)).run = marked t dir.foldedNames := by
  change t.isFile cwd (dir.joinText fileName) = _
  rw [isFile, h.lookup_eq, marked]
  cases t.node? (dir.foldedNames ++ [fileName]) with
  | none => rfl
  | some node => cases node <;> rfl

theorem layer_congr (decode : Decoder) (h : Searchable t dir) (hOther : Searchable t other)
    (cwd : Place) (hNames : dir.foldedNames = other.foldedNames) :
    layer decode (t.snapshot cwd) (dir.joinText fileName) =
      layer decode (t.snapshot cwd) (other.joinText fileName) := by
  have hContent : t.read cwd (dir.joinText fileName) = t.read cwd (other.joinText fileName) := by
    rw [FileTree.read, FileTree.read, h.lookup_eq, hOther.lookup_eq, hNames]
  have hRead : (t.snapshot cwd).read (dir.joinText fileName) =
      (t.snapshot cwd).read (other.joinText fileName) :=
    congrArg (ExceptT.mk (m := Id)) hContent
  rw [layer, layer, FileSystem.readText, FileSystem.readText, hRead]

theorem parent (h : Searchable t dir) (hParent : dir.parent? = some other) :
    Searchable t other := by
  obtain ⟨hAbsolute, hTrunk⟩ := trunk_of_parent?_isPrefix h.isAbsolute hParent
  have hTrimmed := isTrimmed_of_parent? hParent
  obtain ⟨last, hSteps⟩ := steps_of_parent? h.isAbsolute hParent
  refine ⟨hAbsolute, hTrimmed, h.walkable.of_isPrefix ?_, ?_⟩
  · rw [hSteps]
    exact List.prefix_append _ _
  · exact checkPath_joinText_of_sublist h.isAbsolute h.isTrimmed hTrimmed hAbsolute hTrunk.sublist
      (by decide) h.accepted

theorem ofNames {names : List String} (h : Searchable t dir) (hNames : names <+: dir.foldedNames) :
    Searchable t (ofNames names) := by
  have hOwn : ∀ name ∈ names, IsName name := fun name hName =>
    isName_of_mem_foldedNames (hNames.subset hName)
  have hTrunk : (Path.ofNames names).trunk.Sublist dir.trunk := by
    rw [trunk_ofNames hOwn]
    exact (hNames.sublist.map _).trans (names_sublist_trunk dir)
  refine ⟨isAbsolute_ofNames names, isTrimmed_ofNames hOwn, ⟨?_, ?_⟩, ?_⟩
  · rw [steps_ofNames hOwn]
    intro before hBefore
    obtain ⟨passed, hPassed, rfl⟩ := List.prefix_map_iff.mp hBefore
    rw [foldl_walk_names, List.nil_append]
    have hReached := hPassed.trans hNames
    rw [foldedNames_eq] at hReached
    obtain ⟨steps, hSteps, rfl⟩ := exists_isPrefix_foldl_walk_eq List.nil_prefix hReached
    exact h.walkable.directory steps hSteps
  · rw [steps_ofNames hOwn]
    intro name hName
    apply h.walkable.fits name
    apply name_mem_steps_of_mem_foldedNames
    exact hNames.subset (by simpa using hName)
  · exact checkPath_joinText_of_sublist h.isAbsolute h.isTrimmed (isTrimmed_ofNames hOwn)
      (isAbsolute_ofNames names) hTrunk (by decide) h.accepted

end Searchable

theorem NearestAbove.searchable {cwd : Place} {start? found : Option Path}
    (h : NearestAbove (t.snapshot cwd) start? found) (hStart : ∀ dir ∈ start?, Searchable t dir) :
    ∀ dir ∈ found, Searchable t dir ∧ marked t dir.foldedNames = true ∧
      ∃ start ∈ start?, dir.steps <+: start.steps := by
  induction h with
  | nowhere => simp
  | @here start isFile =>
    rintro dir ⟨⟩
    have hDir := hStart start rfl
    rw [hDir.isFile_eq] at isFile
    exact ⟨hDir, isFile, start, rfl, List.prefix_refl _⟩
  | @above start found _ further ih =>
    intro dir hDir
    have hUp : ∀ up ∈ start.parent?, Searchable t up := fun up hUp => (hStart start rfl).parent hUp
    obtain ⟨hSearchable, hMarked, up, hUpParent, hSteps⟩ := ih hUp dir hDir
    obtain ⟨last, hLast⟩ := steps_of_parent? (hStart start rfl).isAbsolute hUpParent
    refine ⟨hSearchable, hMarked, start, rfl, hSteps.trans ?_⟩
    rw [hLast]
    exact List.prefix_append _ _

/-- Nothing below the directory that is found has a settings file. -/
theorem NearestAbove.unmarked {cwd : Place} {start? found : Option Path}
    (h : NearestAbove (t.snapshot cwd) start? found) (hStart : ∀ dir ∈ start?, Searchable t dir)
    {start : Path} (hOwn : start ∈ start?) {steps : List Component} (hSteps : steps <+: start.steps)
    (hBelow : ∀ dir ∈ found, dir.steps.length < steps.length) :
    marked t (steps.foldl walk []) = false := by
  induction h generalizing start with
  | nowhere => cases hOwn
  | @here dir isFile =>
    cases hOwn
    exact absurd (hBelow dir rfl) (Nat.not_lt.mpr hSteps.length_le)
  | @above dir found isMissing further ih =>
    cases hOwn
    have hDir := hStart dir rfl
    by_cases hHere : steps = dir.steps
    · rw [hDir.isFile_eq, foldedNames_eq] at isMissing
      rw [hHere, isMissing]
    cases hParent : dir.parent? with
    | none =>
      have hNone : dir.steps = [] := by
        rw [steps_eq, trunk_of_parent?_eq_none hParent]
        rfl
      rw [hNone] at hSteps hHere
      exact absurd (List.prefix_nil.mp hSteps) hHere
    | some up =>
      obtain ⟨last, hLast⟩ := steps_of_parent? hDir.isAbsolute hParent
      rw [hLast] at hSteps hHere
      exact ih (fun up hUp => hDir.parent hUp) hParent
        ((List.prefix_concat_iff.mp hSteps).resolve_left hHere) hBelow

theorem searchable_parent? {cwd : Place} {p : Path} (hAbsolute : p.isAbsolute = true)
    (hDirectories : ∀ dir ∈ p.parent?, t.isDirectory cwd dir = true)
    (hLength : ∀ dir ∈ p.parent?, (dir.joinText fileName).text.utf8ByteSize ≤ pathLimit) :
    ∀ dir ∈ p.parent?, Searchable t dir := by
  intro dir hParent
  have hDir := (trunk_of_parent?_isPrefix hAbsolute hParent).1
  have hDirectory := hDirectories dir hParent
  refine ⟨hDir, isTrimmed_of_parent? hParent, walkable_of_isDirectory hDir hDirectory, ?_⟩
  obtain ⟨place, hLookup⟩ := (isDirectory_iff cwd dir).mp hDirectory
  have hNul := ((checkPath_eq_ok_iff dir).mp (lookup_eq_ok hLookup).1).1
  rw [checkPath_eq_ok_iff]
  refine ⟨?_, ?_, hLength dir hParent⟩
  · have hName : '\x00' ∉ fileName.toList := by decide
    rw [chars_joinText dir (by decide)]
    split <;> simp [hNul, hName]
  · exact isEmpty_of_isAbsolute (isAbsolute_joinText hDir fileName)

def settingsIn (decode : Decoder) (t : FileTree) (cwd : Place) (global : Option Path)
    (document : Path) : Option ScopedSettings :=
  ((lookup decode (fileSystem cwd) global document).run t).1

theorem settingsIn_eq (decode : Decoder) (t : FileTree) (cwd : Place) (global : Option Path)
    (document : Path) :
    ∃ found, NearestAbove (t.snapshot cwd) document.parent? found ∧
      settingsIn decode t cwd global document =
        combine (globalLayer? decode (t.snapshot cwd) global).run
          (found.map fun dir => (layer decode (t.snapshot cwd) (dir.joinText fileName), dir)) := by
  obtain ⟨found, hFound, hWorkspace⟩ := workspace?_eq decode (t.snapshot cwd) document
  refine ⟨found, hFound, ?_⟩
  rw [settingsIn, reads_lookup, ← hWorkspace]
  rfl

end

end StylesheetBuild.Settings
