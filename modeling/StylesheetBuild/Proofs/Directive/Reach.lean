import StylesheetBuild.Proofs.Options.PassedOn
import StylesheetBuild.Proofs.Text.Lines

/-!
# The reach of directives

A directive holds a flag, a number of 64 bits or a text, and an option takes it only if it fits. The
options that take more than that are out of reach of a document: it cannot name another root document,
nor give a source map settings of its own, nor list browser targets. Stacking adds nothing to what the
layers of the directives hold, and below its first line a document has no say at all.
-/

namespace StylesheetBuild

/-- A flag, a signed word of 64 bits or a text. -/
inductive Value.IsPlain : Value → Prop where
  | flag (on : Bool) : IsPlain (.bool on)
  | number (n : Int) (h : isWord n = true) : IsPlain (.int n)
  | text (s : String) : IsPlain (.str s)

open Value

theorem DirectiveValue.isPlain_ofText (raw : List Char) : (ofText raw).toValue.IsPlain := by
  unfold ofText
  split
  · exact .flag true
  · split
    · exact .flag false
    · split
      · rename_i n hNumber
        exact .number n (Option.filter_eq_some_iff.mp hNumber).2
      · exact .text _

theorem Directive.isPlain_of_mem {content : String} {d : Directive} (h : d ∈ ofContent content) :
    d.value.toValue.IsPlain := by
  obtain ⟨key, raw, rfl⟩ := exists_eq_of_mem h
  exact DirectiveValue.isPlain_ofText raw

namespace Options

/-- Holds nothing but what directives can set. -/
structure WithinReach (o : Options) : Prop where
  rootFileInfo : o.rootFileInfo = none
  sourceMap : ∀ s ∈ o.sourceMap, ∃ on, s = .flag on
  autoprefixer : ∀ a ∈ o.autoprefixer, ∃ text, a = .single text
  extra : ∀ (key : String) (v : Value), o.extra[key]? = some v → v.IsPlain

/-- An option that a single field with a plain value sets has been read from that value. -/
theorem known?_singleton {v : Value} (hPlain : v.IsPlain) {name key : String}
    {read? : Value → Option α} {option : Option α} (h : known? [(name, v)] key read? = some option) :
    ∀ a ∈ option, read? v = some a := by
  rintro a rfl
  rw [known?, field?, List.lookup_cons, List.lookup_nil] at h
  cases hKey : key == name with
  | false =>
    rw [hKey] at h
    cases h
  | true =>
    rw [hKey] at h
    cases hPlain <;> simpa [optional?] using h

theorem withinReach_of_ofFields? {v : Value} (hPlain : v.IsPlain) {name : String} {o : Options}
    (h : ofFields? [(name, v)] = some o) : o.WithinReach := by
  have hExtra (key : String) : o.extra[key]? = passedOn? [(name, v)] key :=
    getElem?_extra_of_ofFields? h
  simp only [ofFields?, Option.bind_eq_bind, Option.bind_eq_some_iff, Option.pure_def,
    Option.some.injEq] at h
  obtain ⟨_, -, _, -, _, -, _, -, sourceMap, hMap, autoprefixer, hTargets, _, -, root, hRoot, rfl⟩ := h
  constructor
  case rootFileInfo =>
    cases root with
    | none => rfl
    | some info =>
      have hRead := known?_singleton hPlain hRoot info rfl
      cases hPlain <;> simp [RootFileInfo.ofValue?] at hRead
  case sourceMap =>
    intro s hs
    have hRead := known?_singleton hPlain hMap s hs
    cases hPlain <;> simp [SourceMapOption.ofValue?] at hRead
    exact ⟨_, hRead.symm⟩
  case autoprefixer =>
    intro a ha
    have hRead := known?_singleton hPlain hTargets a ha
    cases hPlain <;> simp [Autoprefixer.ofValue?] at hRead
    exact ⟨_, hRead.symm⟩
  case extra =>
    intro key other hOther
    rw [hExtra, passedOn?, lastField?_singleton] at hOther
    split at hOther
    · cases hOther
    · split at hOther
      · cases hOther
        exact hPlain
      · cases hOther

theorem withinReach_empty : empty.WithinReach where
  rootFileInfo := rfl
  sourceMap := by simp [empty]
  autoprefixer := by simp [empty]
  extra := by simp [empty]

theorem WithinReach.merge {lower higher : Options} (hLower : lower.WithinReach)
    (hHigher : higher.WithinReach) : (lower.merge higher).WithinReach where
  rootFileInfo := by rw [Options.merge, hLower.rootFileInfo, hHigher.rootFileInfo, Option.or_none]
  sourceMap s hs := by
    rcases Option.or_eq_some_iff.mp hs with hs | ⟨-, hs⟩
    · exact hHigher.sourceMap s hs
    · exact hLower.sourceMap s hs
  autoprefixer a ha := by
    rcases Option.or_eq_some_iff.mp ha with ha | ⟨-, ha⟩
    · exact hHigher.autoprefixer a ha
    · exact hLower.autoprefixer a ha
  extra key v hv := by
    rw [getElem?_extra_merge] at hv
    rcases Option.or_eq_some_iff.mp hv with hv | ⟨-, hv⟩
    · exact hHigher.extra key v hv
    · exact hLower.extra key v hv

theorem withinReach_stack {layers : List Options} (h : ∀ layer ∈ layers, layer.WithinReach) :
    (stack layers).WithinReach := by
  induction layers using List.reverseRecOn with
  | nil => exact withinReach_empty
  | append_singleton layers last ih =>
    rw [stack, List.foldl_append, ← stack]
    exact (ih fun layer hLayer => h layer (List.mem_append_left _ hLayer)).merge (h last (by simp))

theorem withinReach_ofContent (content : String) : (ofContent content).WithinReach := by
  apply withinReach_stack
  intro layer hLayer
  obtain ⟨d, hd, hFits⟩ := List.mem_filterMap.mp hLayer
  exact withinReach_of_ofFields? (Directive.isPlain_of_mem hd) hFits

theorem ofContent_eq_of_firstLine {content other : String}
    (h : Text.firstLine content.toList = Text.firstLine other.toList) :
    ofContent content = ofContent other := by
  have hLine : Directive.line? content.toList = Directive.line? other.toList := by
    rw [Directive.line?, Directive.line?, h]
  rw [ofContent, ofContent, Directive.ofContent, Directive.ofContent, hLine]

/-- Documents with one first line have the same options, which hold nothing out of the reach of
directives but what the defaults hold, and the root document of the defaults in any case. -/
theorem withDirectives_limited {content other : String}
    (h : (Text.lines content.toList).headD [] = (Text.lines other.toList).headD []) :
    ofContent content = ofContent other ∧ (ofContent content).WithinReach ∧
      ∀ defaults : Options, defaults.withDirectives content = defaults.withDirectives other ∧
        (defaults.withDirectives content).rootFileInfo = defaults.rootFileInfo := by
  rw [Text.headD_lines, Text.headD_lines] at h
  have hSame := ofContent_eq_of_firstLine h
  have hReach := withinReach_ofContent content
  refine ⟨hSame, hReach, ?_⟩
  intro defaults
  constructor
  · rw [withDirectives, withDirectives, hSame]
  · rw [withDirectives, Options.merge, hReach.rootFileInfo, Option.none_or]

/-- Directives that ask for too much, a repeated key and a number of more than 64 bits, before line ends
of both kinds. -/
theorem withDirectives_limited_mixed_line :
    let line := "// rootFileInfo: x, sourceMap: true, autoprefixer: 'a, b', sourceMap: [], " ++
      "n: 9223372036854775808"
    let content := line ++ "\r\n// sourceMap: false"
    let other := line ++ "\n"
    let defaults : Options := { rootFileInfo := some (.ofPath ⟨"/w/a.scss"⟩) }
    (Text.lines content.toList).headD [] = (Text.lines other.toList).headD [] ∧
      defaults.withDirectives content = defaults.withDirectives other ∧
      (ofContent content).WithinReach ∧
      (defaults.withDirectives content).rootFileInfo = some (.ofPath ⟨"/w/a.scss"⟩) ∧
      (ofContent content).sourceMap = some (.flag true) ∧
      (ofContent content).autoprefixer = some (.single "a, b") ∧
      (ofContent content).extra["n"]?.bind str? = some "9223372036854775808" := by
  intro line content other defaults
  have hLine : (Text.lines content.toList).headD [] = (Text.lines other.toList).headD [] := by
    decide +kernel
  have hDirectives : Directive.ofContent content =
      [⟨"rootFileInfo", .text "x"⟩, ⟨"sourceMap", .flag true⟩, ⟨"autoprefixer", .text "a, b"⟩,
        ⟨"sourceMap", .text "[]"⟩, ⟨"n", .text "9223372036854775808"⟩] := by
    decide +kernel
  obtain ⟨-, hReach, hLimited⟩ := withDirectives_limited hLine
  obtain ⟨hSame, hRoot⟩ := hLimited defaults
  refine ⟨hLine, hSame, hReach, hRoot, ?_⟩
  rw [ofContent, hDirectives]
  decide +kernel

end Options

end StylesheetBuild
