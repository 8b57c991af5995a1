import Mathlib.Data.List.Basic
import Mathlib.Data.List.Induction
import StylesheetBuild.Path.Order
import StylesheetBuild.Path.Resolve
import StylesheetBuild.Proofs.Path.Parents

/-!
# Folding

The names of a folded path are those left after a walk over its steps. A walk acts on the names
passed before it by leaving some number of the last ones and then going down into names of its own,
however many names there were. So a base matters to a resolved path only through its folded names.
-/

namespace StylesheetBuild.Path

/-- An ordinary segment: the component it stands for is the name itself. -/
def IsName (name : String) : Prop :=
  isSilent name.toList = false ∧ name ≠ ".." ∧ '/' ∉ name.toList

instance (name : String) : Decidable (IsName name) :=
  inferInstanceAs (Decidable (_ ∧ _ ∧ _))

theorem IsName.ofSegment? {name : String} (h : IsName name) :
    Component.ofSegment? name.toList = some (.name name) := by
  obtain ⟨hSilent, hParent, -⟩ := h
  have hLoud : ¬(name.toList = [] ∨ name.toList = ['.']) := by
    rw [← isSilent_iff, hSilent]
    exact Bool.false_ne_true
  have hUp : name.toList ≠ ['.', '.'] := fun hDots =>
    hParent (String.toList_inj.mp hDots)
  rw [Component.ofSegment?, if_neg hLoud, if_neg hUp, String.ofList_toList]

theorem isName_of_mem_steps {p : Path} {name : String} (h : .name name ∈ p.steps) :
    IsName name := by
  obtain ⟨segment, hSegment, hName⟩ := List.mem_filterMap.mp h
  have hSilent : isSilent segment = false := by simp [isSilent, hName]
  unfold Component.ofSegment? at hName
  split at hName
  · cases hName
  · split at hName
    · cases hName
    · rename_i hParent
      cases hName
      refine ⟨by simpa using hSilent, fun hDots => hParent ?_, ?_⟩
      · simpa using congrArg String.toList hDots
      · simpa using noSlash_splitOn p.chars segment hSegment

/-! ## Steps of joined texts -/

theorem ofChars_chars (p : Path) : ofChars p.chars = p := by
  simp [ofChars, chars]

@[simp]
theorem steps_ofChars_nil : (ofChars []).steps = [] := by
  simp [steps, segments, chars_ofChars, Component.ofSegment?]

theorem steps_append_slash (before after : List Char) :
    (ofChars (before ++ '/' :: after)).steps = (ofChars before).steps ++ (ofChars after).steps := by
  simp only [steps, segments, chars_ofChars, List.splitOn_append_cons_self, List.filterMap_append]

theorem steps_slash (after : List Char) : (ofChars ('/' :: after)).steps = (ofChars after).steps := by
  simpa using steps_append_slash [] after

/-- A component that its text stands for inside a path. -/
def IsStep (component : Component) : Prop :=
  '/' ∉ component.text.toList ∧ Component.ofSegment? component.text.toList = some component

theorem isStep_parent : IsStep .parent := by
  constructor <;> decide

theorem IsName.isStep {name : String} (h : IsName name) : IsStep (.name name) :=
  ⟨h.2.2, h.ofSegment?⟩

theorem IsStep.steps_ofChars {step : Component} (h : IsStep step) :
    (ofChars step.text.toList).steps = [step] := by
  rw [steps, segments, chars_ofChars, List.splitOn_eq_singleton h.1]
  simp [h.2]

theorem IsName.steps_ofChars {name : String} (h : IsName name) :
    (ofChars name.toList).steps = [.name name] :=
  h.isStep.steps_ofChars

theorem steps_joinSegments {segments : List (List Char)} (h : ∀ s ∈ segments, '/' ∉ s) :
    (ofChars (joinSegments segments)).steps = segments.filterMap Component.ofSegment? := by
  by_cases hSome : segments = []
  · rw [hSome]
    exact steps_ofChars_nil
  · rw [steps, Path.segments, chars_ofChars, joinSegments, List.splitOn_intercalate '/' h hSome]

theorem length_steps_ofChars_le (cs : List Char) : (ofChars cs).steps.length ≤ cs.length + 1 := by
  have hSegments : (cs.splitOn '/').length ≤ cs.length + 1 := by
    induction cs with
    | nil => simp
    | cons c cs ih =>
      rw [List.splitOn_cons_eq_if_modifyHead]
      split <;> simp <;> omega
  have hSteps := List.length_filterMap_le Component.ofSegment? (ofChars cs).segments
  rw [← steps] at hSteps
  rw [segments, chars_ofChars] at hSteps
  exact Nat.le_trans hSteps hSegments

theorem steps_join {base p : Path} (h : p.isAbsolute = false) :
    (base.join p).steps = base.steps ++ p.steps := by
  rw [← ofChars_chars (base.join p), chars_join h]
  split
  · rename_i hBase
    rcases hBase with hEmpty | hSlash
    · rw [hEmpty, List.nil_append, ofChars_chars, ← ofChars_chars base, hEmpty, steps_ofChars_nil,
        List.nil_append]
    · obtain ⟨before, hBefore⟩ := List.getLast?_eq_some_iff.mp hSlash
      have hSteps : base.steps = (ofChars before).steps := by
        rw [← ofChars_chars base, hBefore, steps_append_slash, steps_ofChars_nil, List.append_nil]
      rw [hSteps, hBefore, List.append_assoc, List.singleton_append, steps_append_slash,
        ofChars_chars]
  · rw [steps_append_slash, ofChars_chars, ofChars_chars]

theorem IsStep.steps_joinText {step : Component} (h : IsStep step) (base : Path) :
    (base.joinText step.text).steps = base.steps ++ [step] := by
  have hText : (⟨step.text⟩ : Path) = ofChars step.text.toList := by simp [ofChars]
  rw [joinText, steps_join (isAbsolute_of_noSlash h.1), hText, h.steps_ofChars]

theorem steps_joinText {base : Path} {name : String} (h : IsName name) :
    (base.joinText name).steps = base.steps ++ [.name name] :=
  h.isStep.steps_joinText base

theorem steps_foldl_joinText {steps : List Component} (h : ∀ step ∈ steps, IsStep step)
    (base : Path) :
    (steps.foldl (fun q step => q.joinText step.text) base).steps = base.steps ++ steps := by
  induction steps generalizing base with
  | nil => simp
  | cons step steps ih =>
    rw [List.foldl_cons, ih fun other hOther => h other (List.mem_cons_of_mem _ hOther),
      (h step List.mem_cons_self).steps_joinText, List.append_assoc, List.singleton_append]

/-! ## Walks -/

theorem foldedNames_eq (p : Path) : p.foldedNames = p.steps.foldl walk [] := by
  rcases p.lead_cases with hLead | hLead | hLead <;> simp [foldedNames, components, hLead, walk]

/-- A walk that never goes up passes its names and nothing else. -/
theorem foldl_walk_of_no_parent {steps : List Component} (h : .parent ∉ steps)
    (start : List String) :
    steps.foldl walk start = start ++ steps.filterMap Component.name? := by
  induction steps generalizing start with
  | nil => simp
  | cons step steps ih =>
    rw [List.foldl_cons, ih (List.not_mem_of_not_mem_cons h)]
    cases step with
    | parent => simp at h
    | name s => simp [walk, Component.name?]
    | _ => rfl

theorem foldl_walk_names (names start : List String) :
    (names.map Component.name).foldl walk start = start ++ names := by
  rw [foldl_walk_of_no_parent (by simp), List.filterMap_map]
  congr 1
  exact List.filterMap_some

theorem foldl_walk_length_le (steps : List Component) (start : List String) :
    (steps.foldl walk start).length ≤ start.length + steps.length := by
  induction steps generalizing start with
  | nil => simp
  | cons step steps ih =>
    have hStep : (walk start step).length ≤ start.length + 1 := by
      cases step <;> simp [walk]
      omega
    have hRest := ih (walk start step)
    rw [List.foldl_cons, List.length_cons]
    omega

theorem le_foldl_walk_length (steps : List Component) (start : List String) :
    start.length ≤ (steps.foldl walk start).length + steps.length := by
  induction steps generalizing start with
  | nil => simp
  | cons step steps ih =>
    have hStep : start.length ≤ (walk start step).length + 1 := by
      cases step <;> simp [walk] <;> omega
    have hRest := ih (walk start step)
    rw [List.foldl_cons, List.length_cons]
    omega

/-- A walk leaves `up` of the names before it and goes down into the names `down`. At the root there
is nothing to leave. -/
theorem exists_foldl_walk_eq (steps : List Component) :
    ∃ (up : Nat) (down : List String), ∀ start,
      steps.foldl walk start = start.take (start.length - up) ++ down := by
  induction steps using List.reverseRecOn with
  | nil => exact ⟨0, [], by simp⟩
  | append_singleton steps step ih =>
    obtain ⟨up, down, hWalk⟩ := ih
    cases step with
    | name s => exact ⟨up, down ++ [s], fun start => by simp [hWalk, walk]⟩
    | root => exact ⟨up, down, fun start => by simp [hWalk, walk]⟩
    | current => exact ⟨up, down, fun start => by simp [hWalk, walk]⟩
    | parent =>
      by_cases hDown : down = []
      · refine ⟨up + 1, [], fun start => ?_⟩
        rw [List.foldl_append, List.foldl_cons, List.foldl_nil, hWalk, hDown]
        simp only [walk, List.append_nil, List.dropLast_eq_take, List.length_take, List.take_take]
        congr 1
        omega
      · refine ⟨up, down.dropLast, fun start => ?_⟩
        rw [List.foldl_append, List.foldl_cons, List.foldl_nil, hWalk, walk,
          List.dropLast_append_of_ne_nil hDown]

/-- A walk passes through everything between where it starts and where it ends. -/
theorem exists_isPrefix_foldl_walk_eq {start middle : List String} {steps : List Component}
    (hStart : start <+: middle) (hEnd : middle <+: steps.foldl walk start) :
    ∃ before, before <+: steps ∧ before.foldl walk start = middle := by
  induction steps using List.reverseRecOn with
  | nil => exact ⟨[], List.prefix_refl [], hStart.eq_of_length_le hEnd.length_le⟩
  | append_singleton steps step ih =>
    rw [List.foldl_append, List.foldl_cons, List.foldl_nil] at hEnd
    by_cases hHere : middle = walk (steps.foldl walk start) step
    · refine ⟨steps ++ [step], List.prefix_refl _, ?_⟩
      rw [List.foldl_append, List.foldl_cons, List.foldl_nil, hHere]
    -- The last step cannot enter `middle`, so the walk has passed it before.
    have hBefore : middle <+: steps.foldl walk start := by
      cases step with
      | name s => exact (List.prefix_concat_iff.mp hEnd).resolve_left hHere
      | parent => exact hEnd.trans (List.dropLast_prefix _)
      | root => exact hEnd
      | current => exact hEnd
    obtain ⟨before, hPrefix, hMiddle⟩ := ih hBefore
    exact ⟨before, hPrefix.trans (List.prefix_append _ _), hMiddle⟩

theorem foldl_walk_sublist (steps : List Component) (start : List String) :
    (steps.foldl walk start).Sublist (start ++ steps.filterMap Component.name?) := by
  induction steps generalizing start with
  | nil => simp
  | cons step steps ih =>
    have hRest := ih (walk start step)
    cases step with
    | name s => simpa [walk, Component.name?] using hRest
    | parent =>
      refine hRest.trans ?_
      rw [List.filterMap_cons_none rfl]
      exact (List.dropLast_sublist start).append_right _
    | root => exact hRest
    | current => exact hRest

theorem isName_of_mem_foldl_walk {steps : List Component} {start : List String}
    (hStart : ∀ name ∈ start, IsName name) (hSteps : ∀ name, .name name ∈ steps → IsName name) :
    ∀ name ∈ steps.foldl walk start, IsName name := by
  induction steps generalizing start with
  | nil => exact hStart
  | cons step steps ih =>
    refine ih ?_ fun name hName => hSteps name (List.mem_cons_of_mem _ hName)
    intro name hName
    cases step with
    | name s =>
      rcases List.mem_append.mp hName with hName | hName
      · exact hStart name hName
      · rw [List.mem_singleton.mp hName]
        exact hSteps s (by simp)
    | parent => exact hStart name (List.dropLast_subset _ hName)
    | root => exact hStart name hName
    | current => exact hStart name hName

theorem isName_of_mem_foldedNames {p : Path} {name : String} (h : name ∈ p.foldedNames) :
    IsName name := by
  rw [foldedNames_eq] at h
  exact isName_of_mem_foldl_walk (by simp) (fun _ => isName_of_mem_steps) name h

theorem name_mem_steps_of_mem_foldedNames {p : Path} {name : String} (h : name ∈ p.foldedNames) :
    .name name ∈ p.steps := by
  rw [foldedNames_eq] at h
  have hName := (foldl_walk_sublist p.steps []).subset h
  rw [List.nil_append] at hName
  obtain ⟨step, hStep, hOwn⟩ := List.mem_filterMap.mp hName
  cases step <;> cases hOwn
  exact hStep

theorem toList_of_ofSegment? {segment : List Char} {name : String}
    (h : Component.ofSegment? segment = some (.name name)) : name.toList = segment := by
  unfold Component.ofSegment? at h
  split at h
  · cases h
  · split at h
    · cases h
    · cases h
      exact String.toList_ofList

theorem names_of_segments_sublist (segments : List (List Char)) :
    (((segments.filterMap Component.ofSegment?).filterMap Component.name?).map
      String.toList).Sublist segments := by
  induction segments with
  | nil => exact .refl _
  | cons segment segments ih =>
    cases hStep : Component.ofSegment? segment with
    | none =>
      rw [List.filterMap_cons_none hStep]
      exact ih.cons segment
    | some step =>
      rw [List.filterMap_cons_some hStep]
      cases step with
      | name name =>
        obtain rfl := toList_of_ofSegment? hStep
        exact ih.cons_cons name.toList
      | _ => exact ih.cons segment

/-- The names that a path folds to are some of the segments that spell it. -/
theorem names_sublist_trunk (p : Path) : (p.foldedNames.map String.toList).Sublist p.trunk := by
  have hFolded := foldl_walk_sublist p.steps []
  rw [← foldedNames_eq, List.nil_append] at hFolded
  have hTrunk := names_of_segments_sublist p.trunk
  rw [← steps_eq] at hTrunk
  exact (hFolded.map _).trans hTrunk

/-! ## Absolute paths -/

theorem lead_eq_root_iff (p : Path) : p.lead = some .root ↔ p.isAbsolute = true := by
  unfold lead
  split
  · simp [*]
  · split <;> simp [*]

theorem isEmpty_of_isAbsolute {p : Path} (h : p.isAbsolute = true) : p.isEmpty = false := by
  rw [isEmpty, ← Bool.not_eq_true, String.isEmpty_iff]
  intro hText
  simp [isAbsolute, chars, hText] at h

/-- Past its lead a path consists of names and steps up. -/
theorem parent_or_name_of_mem_steps {p : Path} {step : Component} (h : step ∈ p.steps) :
    step = .parent ∨ ∃ name, step = .name name := by
  obtain ⟨segment, -, hStep⟩ := List.mem_filterMap.mp h
  unfold Component.ofSegment? at hStep
  split at hStep
  · cases hStep
  · split at hStep
    · exact .inl (Option.some.inj hStep).symm
    · exact .inr ⟨_, (Option.some.inj hStep).symm⟩

theorem not_root_mem_steps (p : Path) : .root ∉ p.steps := by
  intro hRoot
  rcases parent_or_name_of_mem_steps hRoot with hParent | ⟨name, hName⟩
  · cases hParent
  · cases hName

theorem components_eq_of_isAbsolute {p : Path} (h : p.isAbsolute = true) :
    p.components = .root :: p.steps := by
  rw [components, (lead_eq_root_iff p).mpr h]
  rfl

theorem isAbsolute_iff (p : Path) : p.isAbsolute = true ↔ p.components.head? = some .root := by
  constructor
  · intro h
    rw [components_eq_of_isAbsolute h, List.head?_cons]
  · intro hHead
    rw [← lead_eq_root_iff]
    rcases p.lead_cases with hLead | hLead | hLead
    · rw [components, hLead] at hHead
      exact absurd (List.mem_of_mem_head? hHead) (not_root_mem_steps p)
    · exact hLead
    · rw [components, hLead] at hHead
      cases hHead

theorem components_ofNames {names : List String} (h : ∀ name ∈ names, IsName name) :
    (ofNames names).components = .root :: names.map .name := by
  have hChars : (ofNames names).chars = '/' :: joinSegments (names.map String.toList) := by
    simp [ofNames, chars, joinSegments]
  have hAbsolute : (ofNames names).isAbsolute = true := by simp [isAbsolute, hChars]
  have hOfChars : ofNames names = ofChars ('/' :: joinSegments (names.map String.toList)) := by
    rw [← hChars, ofChars_chars]
  have hSlash : ∀ segment ∈ names.map String.toList, '/' ∉ segment := by
    intro segment hSegment
    obtain ⟨name, hName, rfl⟩ := List.mem_map.mp hSegment
    exact (h name hName).2.2
  rw [components_eq_of_isAbsolute hAbsolute, hOfChars, steps_slash, steps_joinSegments hSlash,
    List.filterMap_map, ← List.filterMap_eq_map]
  congr 1
  exact List.filterMap_congr fun name hName => (h name hName).ofSegment?

/-- Paths of ordinary names are told apart by their names. -/
theorem names_eq_of_same {names others : List String} (hNames : ∀ name ∈ names, IsName name)
    (hOthers : ∀ name ∈ others, IsName name) (h : (ofNames names).same (ofNames others) = true) :
    names = others := by
  rw [same, beq_iff_eq, key, key, components_ofNames hNames, components_ofNames hOthers] at h
  exact List.map_injective_iff.mpr (fun _ _ => Component.name.inj) (List.cons.inj h).2

theorem isStep_of_mem_steps {p : Path} {step : Component} (h : step ∈ p.steps) : IsStep step := by
  rcases parent_or_name_of_mem_steps h with rfl | ⟨name, rfl⟩
  · exact isStep_parent
  · exact (isName_of_mem_steps h).isStep

theorem isAbsolute_joinText {base : Path} (h : base.isAbsolute = true) (text : String) :
    (base.joinText text).isAbsolute = true := by
  cases hAbsolute : (⟨text⟩ : Path).isAbsolute with
  | true => rw [joinText, join, if_pos hAbsolute, hAbsolute]
  | false =>
    obtain ⟨rest, hRest⟩ : ∃ rest, base.chars = '/' :: rest :=
      List.head?_eq_some_iff.mp (by simpa [isAbsolute] using h)
    rw [isAbsolute, joinText, chars_join hAbsolute, hRest]
    split <;> rfl

theorem isAbsolute_foldl_joinText {base : Path} (h : base.isAbsolute = true)
    (steps : List Component) :
    (steps.foldl (fun q step => q.joinText step.text) base).isAbsolute = true := by
  induction steps generalizing base with
  | nil => exact h
  | cons step steps ih => exact ih (isAbsolute_joinText h step.text)

theorem isAbsolute_ofNames (names : List String) : (ofNames names).isAbsolute = true := by
  simp [ofNames, isAbsolute, chars]

theorem fold_of_isAbsolute {p : Path} (h : p.isAbsolute = true) : p.fold = ofNames p.foldedNames :=
  if_pos h

theorem isAbsolute_intercalate {names : List String} (hNames : ∀ name ∈ names, IsName name) :
    (⟨"/".intercalate names⟩ : Path).isAbsolute = false := by
  have hChars : (⟨"/".intercalate names⟩ : Path).chars =
      joinSegments (names.map String.toList) := by
    simp [chars, joinSegments]
  rw [isAbsolute, hChars]
  cases names with
  | nil => rfl
  | cons name names =>
    obtain ⟨hLoud, -, hSlash⟩ := hNames name (by simp)
    cases hName : name.toList with
    | nil => simp [hName, isSilent, Component.ofSegment?] at hLoud
    | cons c cs =>
      have hFirst : c ≠ '/' := by
        rintro rfl
        simp [hName] at hSlash
      cases names <;> simp [joinSegments, hName, hFirst, List.intercalate]

/-! ## Absolute forms -/

theorem absoluteLead_cases (p : Path) : p.absoluteLead = "/" ∨ p.absoluteLead = "//" := by
  unfold absoluteLead
  split
  · exact .inl rfl
  · exact .inr rfl
  · exact .inl rfl

section

variable [WorkingDirectory] {p : Path}

theorem absoluteStart_cases {start : Path} (h : p.absoluteStart = .ok start) :
    p.isAbsolute = true ∧ start = ⟨p.absoluteLead⟩ ∨
      p.isAbsolute = false ∧ WorkingDirectory.current = .ok start := by
  rw [absoluteStart] at h
  cases hAbsolute : p.isAbsolute with
  | true =>
    rw [if_pos hAbsolute] at h
    cases h
    exact .inl ⟨rfl, rfl⟩
  | false =>
    rw [if_neg (by simp [hAbsolute])] at h
    exact .inr ⟨rfl, h⟩

/-- What an absolute form adds to the steps of a path: those of the working directory if the path is
relative, and nothing if it is not. -/
structure StartsAt (p start : Path) : Prop where
  isAbsolute : start.isAbsolute = true
  noParent : .parent ∉ start.steps
  ofAbsolute : p.isAbsolute = true → start.steps = []
  ofRelative : p.isAbsolute = false → WorkingDirectory.current = .ok start

theorem startsAt_of_absoluteStart {start : Path} (h : p.absoluteStart = .ok start) :
    p.StartsAt start := by
  rcases absoluteStart_cases h with ⟨hAbsolute, rfl⟩ | ⟨hRelative, hHere⟩
  · have hLead : (⟨p.absoluteLead⟩ : Path).isAbsolute = true ∧
        (⟨p.absoluteLead⟩ : Path).steps = [] := by
      rcases p.absoluteLead_cases with hLead | hLead <;> rw [hLead] <;> decide
    exact ⟨hLead.1, by simp [hLead.2], fun _ => hLead.2, by simp [hAbsolute]⟩
  · exact ⟨WorkingDirectory.isAbsolute_current start hHere,
      WorkingDirectory.not_parent_mem_current start hHere, by simp [hRelative], fun _ => hHere⟩

theorem toAbsolute_eq_ok {whole : Path} (h : p.toAbsolute = .ok whole) :
    p.absolute = whole ∧ p.isEmpty = false ∧ whole.isAbsolute = true ∧
      ∃ start, p.StartsAt start ∧ whole.steps = start.steps ++ p.steps := by
  have hWhole : p.absolute = whole := by rw [absolute, h]; rfl
  rw [toAbsolute] at h
  split at h
  · cases h
  rename_i hSome
  cases hStart : p.absoluteStart with
  | error e =>
    rw [hStart] at h
    cases h
  | ok start =>
    rw [hStart] at h
    have hStarts := startsAt_of_absoluteStart hStart
    have hSteps := steps_foldl_joinText (fun _ => isStep_of_mem_steps (p := p)) start
    have hAbsolute := isAbsolute_foldl_joinText hStarts.isAbsolute p.steps
    refine ⟨hWhole, by simpa using hSome, ?_, start, hStarts, ?_⟩
    · cases h
      split
      · exact isAbsolute_joinText hAbsolute ""
      · exact hAbsolute
    · cases h
      split
      · rw [joinText, steps_join (by decide), hSteps]
        simp [steps, segments, chars, Component.ofSegment?]
      · exact hSteps

theorem toAbsolute_isOk_iff :
    p.toAbsolute.isOk = true ↔
      p.isEmpty = false ∧ (p.isAbsolute = true ∨ WorkingDirectory.current.isOk = true) := by
  rw [toAbsolute, absoluteStart]
  cases hEmpty : p.isEmpty with
  | true => simp [Except.isOk, Except.toBool]
  | false =>
    cases hAbsolute : p.isAbsolute with
    | true => simp [Except.isOk, Except.toBool, bind, Except.bind, pure, Except.pure]
    | false =>
      cases WorkingDirectory.current <;>
        simp [Except.isOk, Except.toBool, bind, Except.bind, pure, Except.pure]

theorem isOk_of_isAbsolute (h : p.isAbsolute = true) : p.toAbsolute.isOk = true :=
  toAbsolute_isOk_iff.mpr ⟨isEmpty_of_isAbsolute h, .inl h⟩

theorem exists_toAbsolute (h : p.toAbsolute.isOk = true) : ∃ whole, p.toAbsolute = .ok whole := by
  cases hWhole : p.toAbsolute with
  | ok whole => exact ⟨whole, rfl⟩
  | error e => simp [hWhole, Except.isOk, Except.toBool] at h

theorem toAbsolute_of_isAbsolute (h : p.isAbsolute = true) :
    ∃ whole, p.toAbsolute = .ok whole ∧ whole.isAbsolute = true ∧ whole.steps = p.steps := by
  obtain ⟨whole, hWhole⟩ :=
    exists_toAbsolute (toAbsolute_isOk_iff.mpr ⟨isEmpty_of_isAbsolute h, .inl h⟩)
  obtain ⟨-, -, hAbsolute, start, hStart, hSteps⟩ := toAbsolute_eq_ok hWhole
  rw [hStart.ofAbsolute h, List.nil_append] at hSteps
  exact ⟨whole, hWhole, hAbsolute, hSteps⟩

theorem absolute_eq_self (h : p.toAbsolute.isOk = false) : p.absolute = p := by
  rw [absolute]
  cases hForm : p.toAbsolute with
  | ok whole => simp [hForm, Except.isOk, Except.toBool] at h
  | error e => rfl

theorem fold_absolute (h : p.isAbsolute = true) : p.absolute.fold = ofNames p.foldedNames := by
  obtain ⟨whole, hWhole, hAbsolute, hSteps⟩ := toAbsolute_of_isAbsolute h
  rw [(toAbsolute_eq_ok hWhole).1, fold_of_isAbsolute hAbsolute, foldedNames_eq, foldedNames_eq,
    hSteps]

end

/-! ## Resolved paths -/

/-- The names from which a path is walked when it is seen from `base`. -/
def startNames (base p : Path) : List String :=
  if p.isAbsolute then [] else base.foldedNames

theorem foldedNames_join (base p : Path) :
    (base.join p).foldedNames = p.steps.foldl walk (startNames base p) := by
  rw [foldedNames_eq, startNames]
  cases hAbsolute : p.isAbsolute with
  | true => rw [join, if_pos hAbsolute, if_pos rfl]
  | false =>
    rw [steps_join hAbsolute, List.foldl_append, ← foldedNames_eq, if_neg Bool.false_ne_true]

theorem resolve_eq [WorkingDirectory] {base : Path} (h : base.isAbsolute = true) (p : Path) :
    base.resolve p = ofNames (p.steps.foldl walk (startNames base p)) := by
  have hJoined : (base.join p).isAbsolute = true := isAbsolute_joinText h p.text
  rw [resolve, fold_absolute hJoined, foldedNames_join]

/-- A path without an absolute form is relative, and resolving leaves it so. -/
theorem isOk_of_isAbsolute_resolve [WorkingDirectory] {base p : Path}
    (h : (base.resolve p).isAbsolute = true) : (base.join p).toAbsolute.isOk = true := by
  by_contra hForm
  rw [Bool.not_eq_true] at hForm
  have hRelative : (base.join p).isAbsolute = false := by
    rw [← Bool.not_eq_true]
    intro hAbsolute
    rw [isOk_of_isAbsolute hAbsolute] at hForm
    cases hForm
  rw [resolve, absolute_eq_self hForm, fold, if_neg (by simp [hRelative]),
    isAbsolute_intercalate fun _ => isName_of_mem_foldedNames] at h
  cases h

theorem isName_of_mem_walk {base p : Path} {name : String}
    (h : name ∈ p.steps.foldl walk (startNames base p)) : IsName name := by
  refine isName_of_mem_foldl_walk ?_ (fun _ => isName_of_mem_steps) name h
  intro name hName
  unfold startNames at hName
  split at hName
  · cases hName
  · exact isName_of_mem_foldedNames hName

/-- Resolved paths are the same only if the walks to them end in the same names. -/
theorem walk_eq_of_resolve_same [WorkingDirectory] {base other p q : Path}
    (hBase : base.isAbsolute = true)
    (hOther : other.isAbsolute = true) (h : (base.resolve p).same (other.resolve q) = true) :
    p.steps.foldl walk (startNames base p) = q.steps.foldl walk (startNames other q) := by
  rw [resolve_eq hBase, resolve_eq hOther] at h
  exact names_eq_of_same (fun _ => isName_of_mem_walk) (fun _ => isName_of_mem_walk) h

theorem empty_join (p : Path) : empty.join p = p := by
  rw [join]
  split
  · rfl
  · simp [empty, isEmpty]

theorem folded_eq [WorkingDirectory] {p : Path} (h : p.isAbsolute = true) :
    p.folded = ofNames p.foldedNames := by
  rw [folded, resolve, empty_join, fold_absolute h]

theorem foldedNames_joinText (base : Path) {name : String} (h : IsName name) :
    (base.joinText name).foldedNames = base.foldedNames ++ [name] := by
  rw [foldedNames_eq, foldedNames_eq, steps_joinText h, List.foldl_append]
  rfl

theorem ofNames_eq_spell (names : List String) :
    ofNames names = spell (some .root) (names.map String.toList) := by
  have hChars : (ofNames names).chars = '/' :: joinSegments (names.map String.toList) := by
    simp [ofNames, chars, joinSegments]
  rw [← ofChars_chars (ofNames names), hChars]
  rfl

theorem proper_names {names : List String} (h : ∀ name ∈ names, IsName name) :
    Proper (some .root) (names.map String.toList) where
  lead_eq := .inr (.inl rfl)
  noSlash s hs := by
    obtain ⟨name, hName, rfl⟩ := List.mem_map.mp hs
    exact (h name hName).2.2
  ends s hs := by
    obtain ⟨name, hName, rfl⟩ := List.mem_map.mp (List.mem_of_getLast? hs)
    exact (h name hName).1
  starts := by simp

theorem isTrimmed_ofNames {names : List String} (h : ∀ name ∈ names, IsName name) :
    (ofNames names).IsTrimmed :=
  ⟨some .root, names.map String.toList, proper_names h, ofNames_eq_spell names⟩

theorem trunk_ofNames {names : List String} (h : ∀ name ∈ names, IsName name) :
    (ofNames names).trunk = names.map String.toList := by
  rw [ofNames_eq_spell, (proper_names h).trunk_spell]

theorem steps_ofNames {names : List String} (h : ∀ name ∈ names, IsName name) :
    (ofNames names).steps = names.map .name := by
  have hComponents := components_ofNames h
  rw [components_eq_of_isAbsolute (isAbsolute_ofNames names)] at hComponents
  exact (List.cons.inj hComponents).2

theorem foldedNames_ofNames {names : List String} (h : ∀ name ∈ names, IsName name) :
    (ofNames names).foldedNames = names := by
  rw [foldedNames_eq, steps_ofNames h, foldl_walk_names, List.nil_append]

/-- The parent of a path of names lacks the last one; the root has no parent. -/
theorem parent?_ofNames {names : List String} (h : ∀ name ∈ names, IsName name) :
    (ofNames names).parent? = if names = [] then none else some (ofNames names.dropLast) := by
  have hLead : (ofNames names).lead = some .root :=
    (lead_eq_root_iff _).mpr (isAbsolute_ofNames names)
  rw [parent?_eq, trunk_ofNames h, hLead]
  rcases List.eq_nil_or_concat names with rfl | ⟨before, last, rfl⟩
  · simp
  · have hBefore : ∀ name ∈ before, IsName name := fun name hName => h name (by simp [hName])
    have hReversed : ((before ++ [last]).map String.toList).reverse =
        last.toList :: (before.map String.toList).reverse := by simp
    have hSome : before ++ [last] ≠ [] := by simp
    rw [List.concat_eq_append, hReversed, if_neg hSome, List.dropLast_concat,
      ofNames_eq_spell before]
    simp only [(proper_names hBefore).dropSilent_reverse, List.reverse_reverse]

/-! ## Directories -/

theorem trunk_of_parent?_isPrefix {p q : Path} (hAbsolute : p.isAbsolute = true)
    (h : p.parent? = some q) : q.isAbsolute = true ∧ q.trunk <+: p.trunk := by
  have hLead : p.lead = some .root := (lead_eq_root_iff p).mpr hAbsolute
  rcases parent?_cases h with ⟨hCurrent, -, -⟩ | ⟨segment, rest, hReversed, rfl⟩
  · rw [hLead] at hCurrent
    cases hCurrent
  · have hKept := p.proper_trunk.kept hReversed
    rw [hKept.trunk_spell, ← lead_eq_root_iff, hKept.lead_spell, ← List.reverse_suffix,
      List.reverse_reverse, hReversed]
    exact ⟨hLead, (dropSilent_suffix rest).trans (List.suffix_cons segment rest)⟩

theorem steps_of_parent? {p q : Path} (hAbsolute : p.isAbsolute = true) (h : p.parent? = some q) :
    ∃ last, p.steps = q.steps ++ [last] := by
  obtain ⟨last, hLast⟩ := components_of_parent? h
  rw [components_eq_of_isAbsolute hAbsolute,
    components_eq_of_isAbsolute (trunk_of_parent?_isPrefix hAbsolute h).1] at hLast
  exact ⟨last, (List.cons.inj hLast).2⟩

theorem mem_ancestors {p q : Path} (hAbsolute : p.isAbsolute = true) (h : q ∈ p.ancestors) :
    q.isAbsolute = true ∧ q.steps <+: p.steps := by
  rw [ancestors_eq] at h
  rcases List.mem_cons.mp h with rfl | hAbove
  · exact ⟨hAbsolute, List.prefix_refl _⟩
  cases hParent : p.parent? with
  | none => simp [hParent] at hAbove
  | some up =>
    rw [hParent] at hAbove
    have hUp := (trunk_of_parent?_isPrefix hAbsolute hParent).1
    obtain ⟨hOwn, hSteps⟩ := mem_ancestors hUp hAbove
    obtain ⟨last, hLast⟩ := steps_of_parent? hAbsolute hParent
    rw [hLast]
    exact ⟨hOwn, hSteps.trans (List.prefix_append _ _)⟩
termination_by p.components.length
decreasing_by
  obtain ⟨last, hLast⟩ := components_of_parent? hParent
  simp [hLast]

theorem trunk_of_parent?_eq_none {p : Path} (h : p.parent? = none) : p.trunk = [] := by
  rw [parent?_eq] at h
  split at h
  · rename_i hReversed
    simpa using hReversed
  · cases h

/-- The ancestors of a path pass all directories on its spelling. -/
theorem exists_mem_ancestors {p : Path} {steps : List Component} (hAbsolute : p.isAbsolute = true)
    (h : steps <+: p.steps) : ∃ q ∈ p.ancestors, q.steps = steps := by
  rw [ancestors_eq]
  by_cases hWhole : steps = p.steps
  · exact ⟨p, List.mem_cons_self, hWhole.symm⟩
  cases hParent : p.parent? with
  | none =>
    rw [steps_eq, trunk_of_parent?_eq_none hParent] at h hWhole
    exact absurd (List.prefix_nil.mp h) hWhole
  | some up =>
    have hUp := (trunk_of_parent?_isPrefix hAbsolute hParent).1
    obtain ⟨last, hLast⟩ := steps_of_parent? hAbsolute hParent
    rw [hLast] at h hWhole
    obtain ⟨q, hMember, hSteps⟩ :=
      exists_mem_ancestors hUp ((List.prefix_concat_iff.mp h).resolve_left hWhole)
    exact ⟨q, List.mem_cons_of_mem _ hMember, hSteps⟩
termination_by p.components.length
decreasing_by
  obtain ⟨last, hLast⟩ := components_of_parent? hParent
  simp [hLast]

theorem components_directory (p : Path) : p.directory.components = p.components.dropLast := by
  rw [directory]
  cases hParent : p.parent? with
  | some q =>
    obtain ⟨last, hLast⟩ := components_of_parent? hParent
    rw [hLast, List.dropLast_concat]
    rfl
  | none =>
    have hTrunk : p.trunk = [] := trunk_of_parent?_eq_none hParent
    have hComponents : p.components = p.lead.toList := by simp [components, p.steps_eq, hTrunk]
    rw [hComponents]
    cases p.lead <;> rfl

theorem components_eq_concat {p : Path} {name : String} (h : p.fileName? = some name) :
    p.components = p.directory.components ++ [.name name] := by
  obtain ⟨last, hLast, hName⟩ := Option.bind_eq_some_iff.mp h
  obtain ⟨before, hBefore⟩ := List.getLast?_eq_some_iff.mp hLast
  have hEnd : last = .name name := by cases last <;> simp_all [Component.name?]
  rw [components_directory, hBefore, List.dropLast_concat, hEnd]

theorem name_mem_steps {p : Path} {name : String} (h : p.fileName? = some name) :
    .name name ∈ p.steps := by
  have hMember : .name name ∈ p.lead.toList ++ p.steps := by
    rw [← components, components_eq_concat h]
    simp
  rcases p.lead_cases with hLead | hLead | hLead <;> simpa [hLead] using hMember

theorem parent?_eq_directory {p : Path} {name : String} (h : p.fileName? = some name) :
    p.parent? = some p.directory := by
  cases hParent : p.parent? with
  | some up => rw [directory, hParent, Option.getD_some]
  | none =>
    have hMember := name_mem_steps h
    rw [steps_eq, trunk_of_parent?_eq_none hParent] at hMember
    cases hMember

theorem isAbsolute_directory {p : Path} {name : String} (hAbsolute : p.isAbsolute = true)
    (hName : p.fileName? = some name) : p.directory.isAbsolute = true := by
  rw [isAbsolute_iff] at hAbsolute ⊢
  rw [components_eq_concat hName] at hAbsolute
  cases hDir : p.directory.components with
  | nil => simp [hDir] at hAbsolute
  | cons first rest => simpa [hDir] using hAbsolute

/-- The path of a file in the folders that lead to it from the root, spelled without `..`. -/
def LiesIn (p : Path) (folders : List String) (file : String) : Prop :=
  p.components = .root :: (folders ++ [file]).map .name

namespace LiesIn

variable {p : Path} {folders : List String} {file : String}

theorem components_eq (h : LiesIn p folders file) :
    p.components = (.root :: folders.map .name) ++ [.name file] := by
  rw [h, List.map_append, List.cons_append]
  rfl

theorem isAbsolute (h : LiesIn p folders file) : p.isAbsolute = true := by
  rw [isAbsolute_iff, h, List.head?_cons]

theorem isName_file (h : LiesIn p folders file) : IsName file := by
  have hFile : .name file ∈ p.components := by simp [h.components_eq]
  rw [components_eq_of_isAbsolute h.isAbsolute] at hFile
  exact isName_of_mem_steps (List.mem_of_ne_of_mem (by simp) hFile)

theorem named (h : LiesIn p folders file) : p.fileName? = some file := by
  rw [fileName?, h.components_eq, List.getLast?_concat]
  rfl

theorem components_directory (h : LiesIn p folders file) :
    p.directory.components = .root :: folders.map .name := by
  rw [Path.components_directory, h.components_eq, List.dropLast_concat]

theorem isAbsolute_directory (h : LiesIn p folders file) : p.directory.isAbsolute = true := by
  rw [isAbsolute_iff, h.components_directory, List.head?_cons]

theorem foldedNames_directory (h : LiesIn p folders file) : p.directory.foldedNames = folders := by
  rw [foldedNames, h.components_directory, List.foldl_cons, foldl_walk_names]
  rfl

end LiesIn

theorem liesIn_ofNames {folders : List String} {file : String}
    (hFolders : ∀ name ∈ folders, IsName name) (hFile : IsName file) :
    LiesIn (ofNames (folders ++ [file])) folders file := by
  apply components_ofNames
  intro name hName
  rcases List.mem_append.mp hName with hName | hName
  · exact hFolders name hName
  · rwa [List.mem_singleton.mp hName]

/-- Folding a path folds its directory and keeps its file name. -/
theorem liesIn_folded [WorkingDirectory] {p : Path} {name : String}
    (hAbsolute : p.isAbsolute = true)
    (hName : p.fileName? = some name) : LiesIn p.folded p.directory.foldedNames name := by
  have hNames : p.foldedNames = p.directory.foldedNames ++ [name] := by
    rw [foldedNames, components_eq_concat hName, List.foldl_append]
    rfl
  rw [folded_eq hAbsolute, LiesIn, ← hNames]
  exact components_ofNames fun _ => isName_of_mem_foldedNames

end StylesheetBuild.Path
