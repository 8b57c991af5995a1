import StylesheetBuild.Proofs.Files.Following
import StylesheetBuild.Proofs.Files.Snapshot

/-!
# Writing a file

A file that is written stands where its path walks to. As it takes the place of no directory, every
other path leads where it has led before, and what is read there is the same.
-/

namespace StylesheetBuild.FileTree

open StylesheetBuild.Path

/-- Where a path leads if everything on the way is a directory. -/
def placeOf (cwd : Place) (p : Path) : Place :=
  p.steps.foldl walk (startOf cwd p)

theorem follow_eq_ok {t : FileTree} {start place : Place} {segments : List (List Char)}
    (h : t.follow start segments = .ok place) :
    place = (segments.filterMap Component.ofSegment?).foldl walk start := by
  induction segments generalizing start with
  | nil =>
    cases h
    rfl
  | cons segment segments ih =>
    rw [follow] at h
    split at h
    · cases h
    · cases h
    split at h
    · cases h
    rename_i next hEnter
    cases hStep : Component.ofSegment? segment with
    | none =>
      rw [enter_of_silent start hStep] at hEnter
      cases hEnter
      rw [List.filterMap_cons_none hStep, ih h]
    | some step =>
      obtain ⟨rfl, -⟩ := (enter_eq_ok_iff start next hStep).mp hEnter
      rw [List.filterMap_cons_some hStep, List.foldl_cons, ih h]

theorem place_of_lookup {t : FileTree} {cwd place : Place} {p : Path} {node : FileNode}
    (h : t.lookup cwd p = .ok (place, node)) : place = placeOf cwd p :=
  follow_eq_ok (lookup_eq_ok h).2.1

/-- The way to a place leads through directories only. -/
theorem follow_of_directories {t other : FileTree} {start place : Place}
    {segments : List (List Char)}
    (hSame : ∀ way, t.node? way = some .directory → other.node? way = some .directory)
    (h : t.follow start segments = .ok place) : other.follow start segments = .ok place := by
  induction segments generalizing start with
  | nil => exact h
  | cons segment segments ih =>
    rw [follow] at h ⊢
    split at h
    · cases h
    · cases h
    rename_i hHere
    split at h
    · cases h
    rename_i next hEnter
    rw [hSame start hHere]
    simp only
    exact ih h

theorem lookup_of_directories {t other : FileTree} {cwd : Place} {p : Path}
    {found : Place × FileNode}
    (hSame : ∀ way, t.node? way = some .directory → other.node? way = some .directory)
    (hNode : other.node? (placeOf cwd p) = t.node? (placeOf cwd p))
    (h : t.lookup cwd p = .ok found) : other.lookup cwd p = .ok found := by
  obtain ⟨place, node⟩ := found
  have hPlace := place_of_lookup h
  obtain ⟨hCheck, hFollow, hOwn⟩ := lookup_eq_ok h
  rw [← hPlace, hOwn] at hNode
  rw [lookup_of_follow hCheck (follow_of_directories hSame hFollow), hNode]

theorem isFile_iff {t : FileTree} {cwd : Place} {p : Path} :
    t.isFile cwd p = true ↔ ∃ place content, t.lookup cwd p = .ok (place, .file content) := by
  unfold isFile
  split
  · rename_i place content hLookup
    simp [hLookup]
  · rename_i hOther
    simp only [Bool.false_eq_true, false_iff, not_exists]
    exact hOther

theorem read_eq_ok_iff {t : FileTree} {cwd : Place} {p : Path} {content : ByteArray} :
    t.read cwd p = .ok content ↔ ∃ place, t.lookup cwd p = .ok (place, .file content) := by
  unfold FileTree.read
  split <;> simp_all

section

variable {t : FileTree} {place : Place} {content : ByteArray}
  (hFree : t.node? place ≠ some .directory)
include hFree

theorem node?_set (other : Place) (node : FileNode) :
    (t.set place node).node? other = if other = place then some node else t.node? other := by
  have hBelow : place ≠ [] := by
    rintro rfl
    exact hFree rfl
  by_cases hHere : other = place
  · subst hHere
    simp [node?, set, hBelow]
  · have hOther : place ≠ other := Ne.symm hHere
    simp [node?, set, hHere, Std.ExtTreeMap.getElem?_insert, hOther]

theorem directory_set_iff (way : Place) :
    (t.set place (.file content)).node? way = some .directory ↔ t.node? way = some .directory := by
  rw [node?_set hFree]
  split
  · rename_i hHere
    simp [hHere, hFree]
  · rfl

theorem follow_set_iff {start other : Place} {segments : List (List Char)} :
    (t.set place (.file content)).follow start segments = .ok other ↔
      t.follow start segments = .ok other :=
  ⟨follow_of_directories fun way => (directory_set_iff hFree way).mp,
    follow_of_directories fun way => (directory_set_iff hFree way).mpr⟩

section

variable {cwd : Place} {p : Path} (hOther : placeOf cwd p ≠ place)
include hOther

theorem lookup_set_iff {found : Place × FileNode} :
    (t.set place (.file content)).lookup cwd p = .ok found ↔ t.lookup cwd p = .ok found := by
  have hNode : (t.set place (.file content)).node? (placeOf cwd p) = t.node? (placeOf cwd p) := by
    rw [node?_set hFree, if_neg hOther]
  constructor
  · exact lookup_of_directories (fun way => (directory_set_iff hFree way).mp) hNode.symm
  · exact lookup_of_directories (fun way => (directory_set_iff hFree way).mpr) hNode

theorem isFile_set : (t.set place (.file content)).isFile cwd p = t.isFile cwd p := by
  rw [Bool.eq_iff_iff, isFile_iff, isFile_iff]
  simp only [lookup_set_iff hFree hOther]

theorem toOption_read_set :
    ((t.set place (.file content)).read cwd p).toOption = (t.read cwd p).toOption := by
  have hRead : ∀ found : ByteArray, (t.set place (.file content)).read cwd p = .ok found ↔
      t.read cwd p = .ok found := by
    intro found
    simp only [read_eq_ok_iff, lookup_set_iff hFree hOther]
  cases hOwn : t.read cwd p with
  | ok found => rw [(hRead found).mpr hOwn]
  | error e =>
    cases hAfter : (t.set place (.file content)).read cwd p with
    | ok found =>
      rw [(hRead found).mp hAfter] at hOwn
      cases hOwn
    | error e => rfl

theorem toOption_readText_set :
    (((t.set place (.file content)).snapshot cwd).readText p).run.run.toOption =
      ((t.snapshot cwd).readText p).run.run.toOption := by
  have hText : ∀ other : FileTree, ((other.snapshot cwd).readText p).run.run.toOption =
      (other.read cwd p).toOption.bind fun bytes => (FileSystem.textOfBytes bytes).toOption := by
    intro other
    have hRead : (other.snapshot cwd).read p = ExceptT.mk (pure (other.read cwd p)) := rfl
    rw [FileSystem.readText, hRead]
    cases other.read cwd p <;> rfl
  rw [hText, hText, toOption_read_set hFree hOther]

end

end

/-! ## The file itself -/

theorem exists_of_bind_eq_ok {x : Except ε α} {next : α → Except ε β} {b : β}
    (h : (x >>= next) = .ok b) : ∃ a, x = .ok a ∧ next a = .ok b := by
  cases x with
  | error e => cases h
  | ok a => exact ⟨a, rfl, h⟩

theorem trimSegments_eq {p : Path} (h : (trimSegments p).2 = false) :
    (trimSegments p).1 = p.segments := by
  have hSuffix := List.dropWhile_suffix List.isEmpty (l := p.segments.reverse)
  have hKept : (trimSegments p).1 <+: p.segments := by
    rw [← List.reverse_suffix]
    simpa [trimSegments] using hSuffix
  refine hKept.eq_of_length_le ?_
  simpa [trimSegments] using h

theorem target_eq_ok {t : FileTree} {cwd dir : Place} {p : Path} {last : List Char}
    (h : t.target cwd p = .ok (some (dir, last))) :
    checkPath p = .ok () ∧ t.node? dir = some .directory ∧
      t.follow (startOf cwd p) (trimSegments p).1.dropLast = .ok dir ∧
      last = (trimSegments p).1.getLastD [] ∧ last ≠ [] := by
  obtain ⟨_, hCheck, h⟩ := exists_of_bind_eq_ok h
  obtain ⟨reached, hFollow, h⟩ := exists_of_bind_eq_ok h
  dsimp only at h
  split at h
  · cases h
  · cases h
  rename_i hNode
  split at h
  · cases h
  rename_i hLoud
  cases h
  exact ⟨hCheck, hNode, hFollow, rfl, fun hEmpty => hLoud (.inl hEmpty)⟩

theorem follow_of_target {t : FileTree} {cwd dir place : Place} {p : Path} {last : List Char}
    (h : t.target cwd p = .ok (some (dir, last))) (hOpen : (trimSegments p).2 = false)
    (hEnter : enter dir last = .ok place) :
    t.follow (startOf cwd p) p.segments = .ok place := by
  obtain ⟨-, hDir, hFollow, hLast, hSome⟩ := target_eq_ok h
  rw [trimSegments_eq hOpen] at hFollow hLast
  have hSplit : p.segments = p.segments.dropLast ++ [last] := by
    rcases List.eq_nil_or_concat p.segments with hNone | ⟨before, own, hOwn⟩
    · rw [hNone] at hLast
      exact absurd hLast hSome
    · rw [hOwn] at hLast ⊢
      simp_all
  rw [hSplit, follow_append (walkable_of_follow hFollow hDir), ← follow_eq_ok hFollow, follow, hDir]
  simp only [hEnter]
  rfl

/-- What a successful write has found, and what it leaves. -/
structure Written (t : FileTree) (cwd : Place) (p : Path) (content : ByteArray)
    (after : FileTree) : Prop where
  accepted : checkPath p = .ok ()
  reached : t.follow (startOf cwd p) p.segments = .ok (placeOf cwd p)
  free : t.node? (placeOf cwd p) ≠ some .directory
  after_eq : after = t.set (placeOf cwd p) (.file content)

theorem written_of_write {t after : FileTree} {cwd : Place} {p : Path} {content : ByteArray}
    (h : t.write cwd p content = .ok after) : t.Written cwd p content after := by
  obtain ⟨found, hTarget, h⟩ := exists_of_bind_eq_ok h
  cases found with
  | none => cases h
  | some found =>
    obtain ⟨dir, last⟩ := found
    dsimp only at h
    split at h
    · cases h
    rename_i hOpen
    obtain ⟨place, hEnter, h⟩ := exists_of_bind_eq_ok h
    split at h
    · cases h
    rename_i hFree
    cases h
    have hReached := follow_of_target hTarget (Bool.eq_false_iff.mpr hOpen) hEnter
    obtain rfl : place = placeOf cwd p := follow_eq_ok hReached
    exact ⟨(target_eq_ok hTarget).1, hReached, hFree, rfl⟩

namespace Written

variable {t after : FileTree} {cwd : Place} {p : Path} {content : ByteArray}

theorem lookup_after (h : t.Written cwd p content after) :
    after.lookup cwd p = .ok (placeOf cwd p, .file content) := by
  have hReached : (t.set (placeOf cwd p) (.file content)).follow (startOf cwd p) p.segments =
      .ok (placeOf cwd p) :=
    (follow_set_iff h.free).mpr h.reached
  rw [h.after_eq, lookup_of_follow h.accepted hReached, node?_set h.free, if_pos rfl]

/-- Before a file was there, no path to its place has led to one. -/
theorem isFile_eq_false (h : t.Written cwd p content after) (hNew : t.isFile cwd p = false)
    {other : Path} (hOther : placeOf cwd other = placeOf cwd p) : t.isFile cwd other = false := by
  rw [← Bool.not_eq_true, isFile_iff] at hNew ⊢
  rintro ⟨place, found, hFound⟩
  have hNode := (lookup_eq_ok hFound).2.2
  rw [place_of_lookup hFound, hOther] at hNode
  exact hNew ⟨_, found, by rw [lookup_of_follow h.accepted h.reached, hNode]⟩

end Written

end StylesheetBuild.FileTree
