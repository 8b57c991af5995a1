import StylesheetBuild.Proofs.Path.Canonical

/-!
# Routes between directories

The relative path from one directory to another climbs to the longest common part of the two and
goes down from there. No shorter route leads to the same place: a step changes the distance between
two lists of names, counted over their common part, by one at most.
-/

namespace StylesheetBuild.Path

/-! ## Common parts -/

section

variable {α : Type}

structure IsLongestCommon (common start goal : List α) : Prop where
  ofStart : common <+: start
  ofGoal : common <+: goal
  longest : ∀ other, other <+: start → other <+: goal → other <+: common

theorem IsLongestCommon.cons {common start goal : List α} (h : IsLongestCommon common start goal)
    (a : α) : IsLongestCommon (a :: common) (a :: start) (a :: goal) where
  ofStart := (List.prefix_cons_inj a).mpr h.ofStart
  ofGoal := (List.prefix_cons_inj a).mpr h.ofGoal
  longest other hStart hGoal := by
    cases other with
    | nil => exact List.nil_prefix
    | cons b other =>
      rw [List.cons_prefix_cons] at hStart hGoal ⊢
      exact ⟨hStart.1, h.longest other hStart.2 hGoal.2⟩

theorem isLongestCommon_nil {start goal : List α} (h : ∀ a ∈ start.head?, a ∉ goal.head?) :
    IsLongestCommon [] start goal where
  ofStart := List.nil_prefix
  ofGoal := List.nil_prefix
  longest other hStart hGoal := by
    cases other with
    | nil => exact List.nil_prefix
    | cons b other =>
      obtain ⟨restStart, rfl⟩ := hStart
      obtain ⟨restGoal, rfl⟩ := hGoal
      exact absurd rfl (h b rfl)

variable [DecidableEq α]

theorem exists_common_eq (start goal : List α) :
    ∃ common up down, start = common ++ up ∧ goal = common ++ down ∧
      commonLength start goal = common.length ∧ IsLongestCommon common start goal := by
  induction start generalizing goal with
  | nil => exact ⟨[], [], goal, rfl, rfl, rfl, isLongestCommon_nil (by simp)⟩
  | cons a start ih =>
    cases goal with
    | nil => exact ⟨[], a :: start, [], rfl, rfl, rfl, isLongestCommon_nil (by simp)⟩
    | cons b goal =>
      by_cases hHead : a = b
      · obtain ⟨common, up, down, hStart, hGoal, hLength, hCommon⟩ := ih goal
        subst hHead
        refine ⟨a :: common, up, down, by simp [hStart], by simp [hGoal], ?_, hCommon.cons a⟩
        simp [commonLength, hLength]
      · refine ⟨[], a :: start, b :: goal, rfl, rfl, by simp [commonLength, hHead], ?_⟩
        exact isLongestCommon_nil (by simpa using Ne.symm hHead)

theorem length_le_commonLength {other start goal : List α} (hStart : other <+: start)
    (hGoal : other <+: goal) : other.length ≤ commonLength start goal := by
  obtain ⟨common, up, down, -, -, hLength, hCommon⟩ := exists_common_eq start goal
  rw [hLength]
  exact (hCommon.longest other hStart hGoal).length_le

theorem commonLength_map {β : Type} [DecidableEq β] {f : α → β} (hf : Function.Injective f)
    (start goal : List α) : commonLength (start.map f) (goal.map f) = commonLength start goal := by
  induction start generalizing goal with
  | nil => rfl
  | cons a start ih =>
    cases goal with
    | nil => rfl
    | cons b goal => simp [commonLength, ih, hf.eq_iff]

theorem commonLength_of_head?_ne {start goal : List α} {b : α} (h : ∀ a ∈ start.head?, a ≠ b) :
    commonLength start (b :: goal) = 0 := by
  cases start with
  | nil => rfl
  | cons a start => exact if_neg (h a rfl)

/-! ## Distances -/

/-- The steps up and down between two lists. -/
def distance (start goal : List α) : Nat :=
  (start.length - commonLength start goal) + (goal.length - commonLength start goal)

theorem distance_self (start : List α) : distance start start = 0 := by
  have hWhole := length_le_commonLength (List.prefix_refl start) (List.prefix_refl start)
  simp [distance, Nat.sub_eq_zero_of_le hWhole]

end

theorem distance_walk_le (start names : List String) (step : Component) :
    distance start (walk names step) ≤ distance start names + 1 := by
  obtain ⟨common, up, down, -, -, hLength, hCommon⟩ := exists_common_eq start names
  have hGoal := hCommon.ofGoal.length_le
  unfold distance
  cases step with
  | name s =>
    have hKept := length_le_commonLength hCommon.ofStart
      (hCommon.ofGoal.trans (List.prefix_append names [s]))
    simp only [walk, List.length_append, List.length_singleton]
    omega
  | parent =>
    -- the last common name is lost at most, and only together with the last name of all
    have hDropped : common.dropLast <+: names.dropLast := by
      apply List.prefix_of_prefix_length_le ((List.dropLast_prefix _).trans hCommon.ofGoal)
        (List.dropLast_prefix names)
      simp only [List.length_dropLast]
      omega
    have hKept := length_le_commonLength ((List.dropLast_prefix _).trans hCommon.ofStart) hDropped
    simp only [walk, List.length_dropLast] at hKept ⊢
    omega
  | root => exact Nat.le_succ _
  | current => exact Nat.le_succ _

theorem distance_foldl_walk_le (start names : List String) (steps : List Component) :
    distance start (steps.foldl walk names) ≤ distance start names + steps.length := by
  induction steps generalizing names with
  | nil => exact Nat.le_refl _
  | cons step steps ih =>
    have hStep := distance_walk_le start names step
    have hRest := ih (walk names step)
    rw [List.foldl_cons, List.length_cons]
    omega

/-! ## Spelling components -/

theorem foldl_joinText_spell {lead : Option Component} {trunk : List (List Char)}
    (hProper : Proper lead trunk) {steps : List Component} (hSteps : ∀ step ∈ steps, IsStep step) :
    steps.foldl (fun p step => p.joinText step.text) (spell lead trunk) =
        spell lead (trunk ++ steps.map fun step => step.text.toList) ∧
      Proper lead (trunk ++ steps.map fun step => step.text.toList) := by
  induction steps generalizing trunk with
  | nil => simpa using hProper
  | cons step steps ih =>
    obtain ⟨hSlash, hRead⟩ := hSteps step (by simp)
    have hLoud : isSilent step.text.toList = false := by rw [isSilent, hRead]; rfl
    obtain ⟨hSpelled, hWhole⟩ := ih (hProper.concat hLoud hSlash)
      fun other hOther => hSteps other (List.mem_cons_of_mem _ hOther)
    rw [List.append_assoc, List.singleton_append] at hSpelled hWhole
    rw [List.foldl_cons, joinText_spell hProper hSlash, List.map_cons]
    exact ⟨hSpelled, hWhole⟩

theorem proper_nil {lead : Option Component}
    (h : lead = none ∨ lead = some .root ∨ lead = some .current) : Proper lead [] :=
  ⟨h, by simp, by simp, by simp⟩

section

variable {steps : List Component} (hSteps : ∀ step ∈ steps, IsStep step)
include hSteps

theorem ofComponents_eq_spell :
    ofComponents steps = spell none (steps.map fun step => step.text.toList) ∧
      Proper none (steps.map fun step => step.text.toList) :=
  foldl_joinText_spell (proper_nil (.inl rfl)) hSteps

theorem isAbsolute_ofComponents : (ofComponents steps).isAbsolute = false := by
  obtain ⟨hSpelled, hProper⟩ := ofComponents_eq_spell hSteps
  rw [← Bool.not_eq_true, hSpelled, hProper.isAbsolute_spell]
  simp

theorem steps_ofComponents : (ofComponents steps).steps = steps := by
  obtain ⟨hSpelled, hProper⟩ := ofComponents_eq_spell hSteps
  have hRead : ∀ step ∈ steps,
      (Component.ofSegment? ∘ fun step => step.text.toList) step = some step :=
    fun step hStep => (hSteps step hStep).2
  rw [hSpelled, steps_eq, hProper.trunk_spell, List.filterMap_map, List.filterMap_congr hRead,
    List.filterMap_some]

theorem components_ofComponents : (ofComponents steps).components = steps := by
  obtain ⟨hSpelled, hProper⟩ := ofComponents_eq_spell hSteps
  rw [components, steps_ofComponents hSteps, hSpelled, hProper.lead_spell]
  rfl

theorem isEmpty_ofComponents : (ofComponents steps).isEmpty = true ↔ steps = [] := by
  constructor
  · intro hEmpty
    have hText : ofComponents steps = empty := congrArg Path.mk (String.isEmpty_iff.mp hEmpty)
    rw [← components_ofComponents hSteps, hText]
    decide
  · rintro rfl
    rfl

end

theorem ofComponents_root {names : List String} (hNames : ∀ name ∈ names, IsName name) :
    ofComponents (.root :: names.map .name) = ofNames names := by
  have hSteps : ∀ step ∈ names.map Component.name, IsStep step := by
    intro step hStep
    obtain ⟨name, hName, rfl⟩ := List.mem_map.mp hStep
    exact (hNames name hName).isStep
  obtain ⟨hSpelled, -⟩ := foldl_joinText_spell (proper_nil (.inr (.inl rfl))) hSteps
  have hRoot : empty.joinText Component.root.text = spell (some .root) [] := by decide
  rw [ofComponents, List.foldl_cons, hRoot, hSpelled, ofNames_eq_spell, List.map_map,
    List.nil_append]
  rfl

/-- What stands before a root is lost. -/
theorem ofComponents_append_root (before after : List Component) :
    ofComponents (before ++ .root :: after) = ofComponents (.root :: after) := by
  rw [ofComponents, List.foldl_append]
  rfl

/-! ## Routes -/

section

variable [WorkingDirectory]

structure IsShortestRoute (start goal route : Path) : Prop where
  spelled : ∃ (common : List Component) (names : List String),
    IsLongestCommon common start.components goal.components ∧
    goal.components = common ++ names.map .name ∧
    route.components =
      List.replicate (start.components.length - common.length) .parent ++ names.map .name
  leads : (start.join route).folded = goal
  shortest : ∀ other : Path, other.isAbsolute = false → (start.join other).folded = goal →
    route.components.length ≤ other.components.length
  silent : route.isEmpty = true ↔ start = goal

theorem folded_join (base p : Path) : (base.join p).folded = base.resolve p := by
  rw [folded, resolve, empty_join]
  rfl

end

theorem ofNames_inj {names others : List String} (hNames : ∀ name ∈ names, IsName name)
    (hOthers : ∀ name ∈ others, IsName name) : ofNames names = ofNames others ↔ names = others := by
  constructor
  · intro h
    exact names_eq_of_same hNames hOthers (by simp [h, same])
  · rintro rfl
    rfl

theorem foldl_walk_parents (before after : List String) :
    (List.replicate after.length Component.parent).foldl walk (before ++ after) = before := by
  induction after using List.reverseRecOn with
  | nil => simp
  | append_singleton after name ih =>
    rw [List.length_append, List.length_singleton, List.replicate_succ, List.foldl_cons, walk,
      ← List.append_assoc, List.dropLast_concat, ih]

section

variable {start goal : List String} (hStart : ∀ name ∈ start, IsName name)
  (hGoal : ∀ name ∈ goal, IsName name)
include hStart hGoal

theorem exists_relativeComponents_eq :
    ∃ common up down, start = common ++ up ∧ goal = common ++ down ∧
      distance start goal = up.length + down.length ∧
      IsLongestCommon (.root :: common.map .name) (ofNames start).components
        (ofNames goal).components ∧
      relativeComponents (ofNames start).components (ofNames goal).components =
        List.replicate up.length .parent ++ down.map .name := by
  obtain ⟨common, up, down, hUp, hDown, hLength, -⟩ := exists_common_eq start goal
  have hNames : Function.Injective Component.name := fun _ _ => Component.name.inj
  have hComponents : commonLength (ofNames start).components (ofNames goal).components =
      common.length + 1 := by
    rw [components_ofNames hStart, components_ofNames hGoal, commonLength, if_pos rfl,
      commonLength_map hNames, hLength]
  refine ⟨common, up, down, hUp, hDown, ?_, ?_, ?_⟩
  · rw [distance, hLength, hUp, hDown]
    simp
  · obtain ⟨longest, _, _, -, -, hLongest, hCommon⟩ :=
      exists_common_eq (ofNames start).components (ofNames goal).components
    have hPrefix : .root :: common.map .name <+: (ofNames start).components := by
      rw [components_ofNames hStart, hUp]
      simp
    have hSame : longest.length = (.root :: common.map .name : List Component).length := by
      simp [← hLongest, hComponents]
    have hBelow := List.prefix_of_prefix_length_le hCommon.ofStart hPrefix (Nat.le_of_eq hSame)
    rwa [← hBelow.eq_of_length hSame]
  · rw [relativeComponents, hComponents, components_ofNames hStart, components_ofNames hGoal, hUp,
      hDown]
    simp

theorem isShortestRoute_ofNames [WorkingDirectory] :
    IsShortestRoute (ofNames start) (ofNames goal)
      (ofComponents (relativeComponents (ofNames start).components (ofNames goal).components)) := by
  obtain ⟨common, up, down, hUp, hDown, hDistance, hCommon, hRoute⟩ :=
    exists_relativeComponents_eq hStart hGoal
  have hSteps : ∀ step ∈ List.replicate up.length Component.parent ++ down.map .name,
      IsStep step := by
    intro step hStep
    rcases List.mem_append.mp hStep with hParent | hOwn
    · rw [List.eq_of_mem_replicate hParent]
      exact isStep_parent
    · obtain ⟨name, hName, rfl⟩ := List.mem_map.mp hOwn
      have hMember : name ∈ goal := hDown ▸ List.mem_append_right common hName
      exact (hGoal name hMember).isStep
  have hWalk : ∀ other : Path, other.isAbsolute = false →
      (ofNames start).resolve other = ofNames (other.steps.foldl walk start) := by
    intro other hOther
    rw [resolve_eq (isAbsolute_ofNames start), startNames, hOther, if_neg Bool.false_ne_true,
      foldedNames_ofNames hStart]
  rw [hRoute]
  constructor
  case spelled =>
    refine ⟨.root :: common.map .name, down, hCommon, ?_, ?_⟩
    · rw [components_ofNames hGoal, hDown]
      simp
    · rw [components_ofComponents hSteps, components_ofNames hStart, hUp]
      simp
  case leads =>
    rw [folded_join, hWalk _ (isAbsolute_ofComponents hSteps), steps_ofComponents hSteps,
      List.foldl_append, hUp, foldl_walk_parents, foldl_walk_names, hDown]
  case shortest =>
    intro other hOther hLeads
    rw [folded_join, hWalk other hOther] at hLeads
    have hWalked := isName_of_mem_foldl_walk hStart fun _ => isName_of_mem_steps (p := other)
    have hLong := distance_foldl_walk_le start start other.steps
    rw [(ofNames_inj hWalked hGoal).mp hLeads, distance_self, hDistance] at hLong
    rw [components_ofComponents hSteps, components]
    simp only [List.length_append, List.length_replicate, List.length_map]
    omega
  case silent =>
    rw [isEmpty_ofComponents hSteps, ofNames_inj hStart hGoal]
    constructor
    · intro hNone
      simp only [List.append_eq_nil_iff, List.replicate_eq_nil_iff, List.length_eq_zero_iff,
        List.map_eq_nil_iff] at hNone
      rw [hUp, hDown, hNone.1, hNone.2]
    · intro hSame
      rw [hSame, distance_self] at hDistance
      have hUpNil : up = [] := List.length_eq_zero_iff.mp (by omega)
      have hDownNil : down = [] := List.length_eq_zero_iff.mp (by omega)
      simp [hUpNil, hDownNil]

end

/-! ## Relative paths -/

theorem isAbsolute_join_of_base {base p : Path} (hBase : base.isEmpty = false)
    (hp : p.isAbsolute = false) : (base.join p).isAbsolute = base.isAbsolute := by
  have hChars : base.chars ≠ [] := by simpa [isEmpty, chars] using hBase
  obtain ⟨c, cs, hFirst⟩ := List.exists_cons_of_ne_nil hChars
  rw [isAbsolute, isAbsolute, chars_join hp, hFirst]
  split <;> rfl

theorem isEmpty_join_of_base {base : Path} (h : base.isEmpty = false) (p : Path) :
    (base.join p).isEmpty = false := by
  cases hAbsolute : p.isAbsolute with
  | true => rw [join, if_pos hAbsolute, isEmpty_of_isAbsolute hAbsolute]
  | false =>
    have hChars : base.chars ≠ [] := by simpa [isEmpty, chars] using h
    have hJoined : (base.join p).chars ≠ [] := by
      rw [chars_join hAbsolute]
      split <;> simp [hChars]
    simpa [isEmpty, chars] using hJoined

section

variable [WorkingDirectory] {start goal : Path}

/-- The directory that relative paths start from, as far as it is known. -/
def here : Path :=
  WorkingDirectory.current.toOption.getD empty

/-- A path that can be made absolute is walked from the working directory or from the root. -/
theorem folded_of_isOk {p : Path} (h : p.toAbsolute.isOk = true) :
    p.folded = ofNames (p.steps.foldl walk (startNames here p)) := by
  obtain ⟨whole, hWhole⟩ := exists_toAbsolute h
  obtain ⟨hForm, -, hAbsolute, origin, hOrigin, hSteps⟩ := toAbsolute_eq_ok hWhole
  have hNames : origin.steps.foldl walk [] = startNames here p := by
    rw [startNames]
    cases hLead : p.isAbsolute with
    | true => rw [hOrigin.ofAbsolute hLead, if_pos rfl, List.foldl_nil]
    | false =>
      have hHere : here = origin := by rw [here, hOrigin.ofRelative hLead]; rfl
      rw [if_neg Bool.false_ne_true, hHere, foldedNames_eq]
  rw [folded, resolve, empty_join, hForm, fold_of_isAbsolute hAbsolute, foldedNames_eq, hSteps,
    List.foldl_append, hNames]

theorem exists_folded_eq {p : Path} (h : p.toAbsolute.isOk = true) :
    ∃ names, (∀ name ∈ names, IsName name) ∧ p.folded = ofNames names :=
  ⟨_, fun _ => isName_of_mem_walk, folded_of_isOk h⟩

theorem isShortestRoute_relative (hStart : start.toAbsolute.isOk = true)
    (hGoal : goal.toAbsolute.isOk = true) :
    IsShortestRoute start.folded goal.folded (start.relative goal) := by
  rw [relative, folded_of_isOk hStart, folded_of_isOk hGoal]
  exact isShortestRoute_ofNames (fun _ => isName_of_mem_walk) fun _ => isName_of_mem_walk

theorem resolve_folded (h : start.toAbsolute.isOk = true) (p : Path) :
    start.folded.resolve p = start.resolve p := by
  have hNames : ∀ name ∈ start.steps.foldl walk (startNames here start), IsName name :=
    fun _ => isName_of_mem_walk
  rw [folded_of_isOk h, resolve_eq (isAbsolute_ofNames _), startNames, foldedNames_ofNames hNames]
  cases hRelative : p.isAbsolute with
  | true => rw [resolve_of_isAbsolute hRelative, if_pos rfl, foldedNames_eq]
  | false =>
    obtain ⟨hSome, hForm⟩ := toAbsolute_isOk_iff.mp h
    have hLead := isAbsolute_join_of_base hSome hRelative
    have hJoined : (start.join p).toAbsolute.isOk = true :=
      toAbsolute_isOk_iff.mpr ⟨isEmpty_join_of_base hSome p, by rwa [hLead]⟩
    rw [← folded_join, folded_of_isOk hJoined, steps_join hRelative, List.foldl_append, startNames,
      startNames, hLead, if_neg Bool.false_ne_true]

theorem isCanonical_folded {p : Path} (h : p.toAbsolute.isOk = true) : p.folded.IsCanonical := by
  obtain ⟨names, hNames, hFolded⟩ := exists_folded_eq h
  rw [hFolded]
  exact isCanonical_ofNames hNames

/-- From a relative path the way starts at the root. -/
theorem relative_of_folded_not_absolute (hStart : start.folded.isAbsolute = false)
    (hGoal : goal.toAbsolute.isOk = true) : start.relative goal = goal.folded := by
  obtain ⟨names, hNames, hFolded⟩ := exists_folded_eq hGoal
  have hApart : ∀ component ∈ start.folded.components.head?, component ≠ .root := by
    rintro component hHead rfl
    rw [(isAbsolute_iff _).mpr hHead] at hStart
    cases hStart
  rw [relative, hFolded, components_ofNames hNames, relativeComponents,
    commonLength_of_head?_ne hApart, List.drop_zero, ofComponents_append_root,
    ofComponents_root hNames]

/-- A relative path leads to its goal from wherever it was made, also from a directory that is
spelled in another way or has no absolute form. -/
theorem folded_join_relative (start : Path) (hGoal : goal.toAbsolute.isOk = true) :
    (start.join (start.relative goal)).folded = goal.folded := by
  cases hForm : start.toAbsolute.isOk with
  | true =>
    rw [folded_join, ← resolve_folded hForm, ← folded_join]
    exact (isShortestRoute_relative hForm hGoal).leads
  | false =>
    have hStart : start.folded.isAbsolute = false := by
      rw [← Bool.not_eq_true]
      intro hAbsolute
      have hOwn := isOk_of_isAbsolute_resolve hAbsolute
      rw [empty_join, hForm] at hOwn
      cases hOwn
    obtain ⟨names, -, hFolded⟩ := exists_folded_eq hGoal
    have hAbsolute : goal.folded.isAbsolute = true := hFolded ▸ isAbsolute_ofNames names
    rw [relative_of_folded_not_absolute hStart hGoal, join,
      if_pos hAbsolute, folded, (isCanonical_folded hGoal).stable empty]

end

end StylesheetBuild.Path
