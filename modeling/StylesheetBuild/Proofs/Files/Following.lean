import Mathlib.Data.String.Basic
import StylesheetBuild.Files.Tree
import StylesheetBuild.Proofs.Path.Folding

/-!
# Following paths

Where everything on the way is a directory, following an absolute path leads to the place that its
steps walk to, whatever silent segments it is spelled with. So what stands at the end of a path in
such a directory depends on the folded path alone.
-/

namespace StylesheetBuild.FileTree

open StylesheetBuild.Path

variable {t : FileTree}

/-- Every place on the walk is a directory and every name on it short enough. -/
structure Walkable (t : FileTree) (start : Place) (steps : List Component) : Prop where
  directory : ∀ before, before <+: steps → t.node? (before.foldl walk start) = some .directory
  fits : ∀ name, .name name ∈ steps → name.utf8ByteSize ≤ nameLimit

namespace Walkable

variable {start : Place} {step : Component} {steps : List Component}

theorem here (h : t.Walkable start steps) : t.node? start = some .directory :=
  h.directory [] List.nil_prefix

theorem tail (h : t.Walkable start (step :: steps)) : t.Walkable (walk start step) steps where
  directory before hBefore := h.directory (step :: before) (List.prefix_cons_inj step |>.mpr hBefore)
  fits name hName := h.fits name (List.mem_cons_of_mem _ hName)

theorem cons (hHere : t.node? start = some .directory)
    (hFits : ∀ name, step = .name name → name.utf8ByteSize ≤ nameLimit)
    (h : t.Walkable (walk start step) steps) : t.Walkable start (step :: steps) where
  directory before hBefore := by
    cases before with
    | nil => exact hHere
    | cons first before =>
      obtain ⟨rfl, hRest⟩ := List.cons_prefix_cons.mp hBefore
      exact h.directory before hRest
  fits name hName := by
    rcases List.mem_cons.mp hName with hFirst | hRest
    · exact hFits name hFirst.symm
    · exact h.fits name hRest

theorem of_isPrefix {shorter : List Component} (h : t.Walkable start steps)
    (hShorter : shorter <+: steps) : t.Walkable start shorter where
  directory before hBefore := h.directory before (hBefore.trans hShorter)
  fits name hName := h.fits name (hShorter.subset hName)

end Walkable

theorem enter_of_silent (place : Place) {segment : List Char}
    (h : Component.ofSegment? segment = none) : enter place segment = .ok place := by
  have hSilent : segment = [] ∨ segment = ['.'] := by
    rw [← isSilent_iff, isSilent, h]
    rfl
  rw [enter, if_pos hSilent]

theorem enter_eq_ok_iff (place next : Place) {segment : List Char} {step : Component}
    (h : Component.ofSegment? segment = some step) :
    enter place segment = .ok next ↔
      next = walk place step ∧ ∀ name, step = .name name → name.utf8ByteSize ≤ nameLimit := by
  unfold Component.ofSegment? at h
  split at h
  · cases h
  rename_i hLoud
  rw [enter, if_neg hLoud]
  split at h
  · rename_i hUp
    cases h
    rw [if_pos hUp]
    simp [walk, eq_comm]
  · rename_i hUp
    cases h
    rw [if_neg hUp]
    by_cases hLong : nameLimit < (String.ofList segment).utf8ByteSize
    · simp [hLong]
    · simp [hLong, walk, eq_comm]
      omega

theorem follow_append {start : Place} {segments : List (List Char)}
    (h : t.Walkable start (segments.filterMap Component.ofSegment?)) (rest : List (List Char)) :
    t.follow start (segments ++ rest) =
      t.follow ((segments.filterMap Component.ofSegment?).foldl walk start) rest := by
  induction segments generalizing start with
  | nil => rfl
  | cons segment segments ih =>
    rw [List.cons_append, follow, h.here]
    cases hStep : Component.ofSegment? segment with
    | none =>
      rw [List.filterMap_cons_none hStep] at h ⊢
      rw [enter_of_silent start hStep]
      exact ih h
    | some step =>
      rw [List.filterMap_cons_some hStep] at h ⊢
      have hEnter : enter start segment = .ok (walk start step) :=
        (enter_eq_ok_iff start _ hStep).mpr ⟨rfl, fun name hName => h.fits name (by simp [hName])⟩
      rw [hEnter, List.foldl_cons]
      exact ih h.tail

theorem walkable_of_follow {start place : Place} {segments : List (List Char)}
    (h : t.follow start segments = .ok place) (hPlace : t.node? place = some .directory) :
    t.Walkable start (segments.filterMap Component.ofSegment?) := by
  induction segments generalizing start with
  | nil =>
    cases h
    refine ⟨fun before hBefore => ?_, by simp⟩
    rw [List.prefix_nil.mp hBefore]
    exact hPlace
  | cons segment segments ih =>
    rw [follow] at h
    split at h
    · cases h
    · cases h
    rename_i hHere
    split at h
    · cases h
    rename_i next hEnter
    cases hStep : Component.ofSegment? segment with
    | none =>
      rw [enter_of_silent start hStep] at hEnter
      cases hEnter
      rw [List.filterMap_cons_none hStep]
      exact ih h
    | some step =>
      obtain ⟨rfl, hFits⟩ := (enter_eq_ok_iff start next hStep).mp hEnter
      rw [List.filterMap_cons_some hStep]
      exact .cons hHere hFits (ih h)

theorem checkPath_eq_ok_iff (p : Path) :
    checkPath p = .ok () ↔
      '\x00' ∉ p.chars ∧ p.isEmpty = false ∧ p.text.utf8ByteSize ≤ pathLimit := by
  unfold checkPath
  by_cases hNul : '\x00' ∈ p.chars
  · simp [hNul]
  by_cases hEmpty : p.isEmpty = true
  · simp [hNul, hEmpty]
  by_cases hLong : pathLimit < p.text.utf8ByteSize
  · simp [hNul, hEmpty, hLong]
  · simp [hNul, hEmpty, hLong]
    omega

theorem lookup_of_follow {cwd place : Place} {p : Path} (hCheck : checkPath p = .ok ())
    (hFollow : t.follow (startOf cwd p) p.segments = .ok place) :
    t.lookup cwd p = match t.node? place with
      | some node => .ok (place, node)
      | none => .error .notFound := by
  rw [lookup, hCheck, hFollow]
  rfl

theorem lookup_eq_ok {cwd place : Place} {p : Path} {node : FileNode}
    (h : t.lookup cwd p = .ok (place, node)) :
    checkPath p = .ok () ∧ t.follow (startOf cwd p) p.segments = .ok place ∧
      t.node? place = some node := by
  cases hCheck : checkPath p with
  | error e =>
    rw [lookup, hCheck] at h
    cases h
  | ok _ =>
    cases hFollow : t.follow (startOf cwd p) p.segments with
    | error e =>
      rw [lookup, hCheck, hFollow] at h
      cases h
    | ok reached =>
      rw [lookup_of_follow hCheck hFollow] at h
      split at h
      · rename_i hNode
        cases h
        exact ⟨rfl, rfl, hNode⟩
      · cases h

theorem isDirectory_iff (cwd : Place) (p : Path) :
    t.isDirectory cwd p = true ↔ ∃ place, t.lookup cwd p = .ok (place, .directory) := by
  unfold isDirectory
  split
  · rename_i place hLookup
    simp [hLookup]
  · rename_i hOther
    simp only [Bool.false_eq_true, false_iff, not_exists]
    exact hOther

theorem joinSegments_concat_sublist {some all : List (List Char)} (h : some.Sublist all)
    (last : List Char) :
    (joinSegments (some ++ [last])).Sublist (joinSegments (all ++ [last])) := by
  induction h with
  | slnil => exact .refl _
  | cons segment _ ih =>
    rw [List.cons_append, joinSegments_cons (by simp)]
    exact ih.trans ((List.sublist_cons_self _ _).trans (List.sublist_append_right _ _))
  | cons_cons segment _ ih =>
    rw [List.cons_append, List.cons_append, joinSegments_cons (by simp),
      joinSegments_cons (by simp)]
    exact (ih.cons_cons '/').append_left segment

section

variable {dir other : Path} {name : String}

theorem exists_spell_of_isTrimmed (hAbsolute : dir.isAbsolute = true) (h : dir.IsTrimmed) :
    Proper (some .root) dir.trunk ∧ dir = spell (some .root) dir.trunk := by
  obtain ⟨lead, trunk, hProper, rfl⟩ := h
  rw [hProper.isAbsolute_spell] at hAbsolute
  subst hAbsolute
  rw [hProper.trunk_spell]
  exact ⟨hProper, rfl⟩

/-- A path with fewer segments is accepted if the whole one is. -/
theorem checkPath_joinText_of_sublist (hAbsolute : dir.isAbsolute = true) (hDir : dir.IsTrimmed)
    (hOther : other.IsTrimmed) (hAbsoluteOther : other.isAbsolute = true)
    (h : other.trunk.Sublist dir.trunk) (hName : '/' ∉ name.toList)
    (hCheck : checkPath (dir.joinText name) = .ok ()) :
    checkPath (other.joinText name) = .ok () := by
  obtain ⟨hProper, hSpell⟩ := exists_spell_of_isTrimmed hAbsolute hDir
  obtain ⟨hProperOther, hSpellOther⟩ := exists_spell_of_isTrimmed hAbsoluteOther hOther
  have hChars : (other.joinText name).chars.Sublist (dir.joinText name).chars := by
    rw [hSpell, hSpellOther, joinText_spell hProper hName, joinText_spell hProperOther hName]
    simpa [spell, chars_ofChars] using joinSegments_concat_sublist h name.toList
  rw [checkPath_eq_ok_iff] at hCheck ⊢
  obtain ⟨hNul, -, hLength⟩ := hCheck
  refine ⟨fun hChar => hNul (hChars.subset hChar), ?_, ?_⟩
  · rw [hSpellOther, joinText_spell hProperOther hName]
    simp [spell, isEmpty, ofChars]
  · rw [← String.utf8Len_toList] at hLength ⊢
    exact Nat.le_trans (String.utf8Len_le_of_sublist hChars) hLength

/-- What stands at a name in a directory is told by the folded directory. -/
theorem lookup_joinText (cwd : Place) (hAbsolute : dir.isAbsolute = true) (hDir : dir.IsTrimmed)
    (hWalk : t.Walkable [] dir.steps) (hName : IsName name) (hFits : name.utf8ByteSize ≤ nameLimit)
    (hCheck : checkPath (dir.joinText name) = .ok ()) :
    t.lookup cwd (dir.joinText name) =
      match t.node? (dir.foldedNames ++ [name]) with
      | some node => .ok (dir.foldedNames ++ [name], node)
      | none => .error .notFound := by
  obtain ⟨hProper, hSpell⟩ := exists_spell_of_isTrimmed hAbsolute hDir
  have hJoined := hProper.concat hName.1 hName.2.2
  have hSegments : (dir.joinText name).segments = ([] :: dir.trunk) ++ [name.toList] := by
    conv_lhs => rw [hSpell]
    rw [joinText_spell hProper hName.2.2, hJoined.segments_spell]
    simp
  have hSteps : ([] :: dir.trunk).filterMap Component.ofSegment? = dir.steps := by
    rw [dir.steps_eq, List.filterMap_cons_none rfl]
  have hStart : startOf cwd (dir.joinText name) = [] := by
    rw [startOf, if_pos (isAbsolute_joinText hAbsolute name)]
  have hPlace : t.node? dir.foldedNames = some .directory := by
    rw [foldedNames_eq]
    exact hWalk.directory dir.steps (List.prefix_refl _)
  have hEnter : enter dir.foldedNames name.toList = .ok (dir.foldedNames ++ [name]) :=
    (enter_eq_ok_iff _ _ hName.ofSegment?).mpr ⟨rfl, by rintro _ ⟨⟩; exact hFits⟩
  have hFollow : t.follow [] (dir.joinText name).segments = .ok (dir.foldedNames ++ [name]) := by
    rw [hSegments, follow_append (by rwa [hSteps]), hSteps, ← foldedNames_eq, follow, hPlace, hEnter]
    rfl
  exact lookup_of_follow hCheck (by rw [hStart, hFollow])

theorem walkable_of_isDirectory {cwd : Place} (hAbsolute : dir.isAbsolute = true)
    (h : t.isDirectory cwd dir = true) : t.Walkable [] dir.steps := by
  obtain ⟨place, hLookup⟩ := (isDirectory_iff cwd dir).mp h
  obtain ⟨-, hFollow, hNode⟩ := lookup_eq_ok hLookup
  rw [startOf, if_pos hAbsolute] at hFollow
  exact walkable_of_follow hFollow hNode

end

end StylesheetBuild.FileTree
