import StylesheetBuild.Proofs.Path.Folding

/-!
# Canonical paths

Of all spellings of an absolute path one is canonical: the root followed by its names, with one
slash between them. These are the paths that folding answers, and the ones that it leaves alone.
-/

namespace StylesheetBuild.Path

/-- An absolute path with nothing left to fold, neither in its components nor in its spelling. -/
structure IsCanonical [WorkingDirectory] (p : Path) : Prop where
  rooted : p.components.head? = some .root
  ordinary : ∀ component ∈ p.components.tail, ∃ name, IsName name ∧ component = .name name
  single : ¬['/', '/'] <:+: p.chars
  closed : p.endsWithSlash = true → p.text = "/"
  stable : ∀ base : Path, base.resolve p = p

theorem resolve_of_isAbsolute [WorkingDirectory] {p : Path} (h : p.isAbsolute = true)
    (base : Path) :
    base.resolve p = ofNames p.foldedNames := by
  have hJoined : base.join p = p := if_pos h
  rw [resolve, hJoined, fold_absolute h]

section

variable {names : List String} (hNames : ∀ name ∈ names, IsName name)
include hNames

theorem segments_ofNames (hSome : names ≠ []) :
    (ofNames names).segments = [] :: names.map String.toList := by
  rw [ofNames_eq_spell, (proper_names hNames).segments_spell]
  simp [hSome]

/-- An empty segment behind the first one would be no name. -/
theorem single_ofNames : ¬['/', '/'] <:+: (ofNames names).chars := by
  rintro ⟨before, after, hText⟩
  have hSegments : (ofNames names).segments =
      before.splitOn '/' ++ ([] :: after.splitOn '/') := by
    rw [segments, ← hText, List.append_assoc, List.cons_append, List.singleton_append,
      List.splitOn_append_cons_self, List.splitOn_cons_eq_if_modifyHead, if_pos (beq_self_eq_true _)]
  by_cases hSome : names = []
  · have hLength := congrArg List.length hText
    simp [hSome, ofNames, chars] at hLength
    omega
  · rw [segments_ofNames hNames hSome] at hSegments
    obtain ⟨first, rest, hFirst⟩ :=
      List.exists_cons_of_ne_nil (List.splitOn_ne_nil '/' before)
    rw [hFirst, List.cons_append, List.cons.injEq] at hSegments
    have hMember : [] ∈ names.map String.toList := by
      rw [hSegments.2]
      simp
    obtain ⟨name, hName, hNil⟩ := List.mem_map.mp hMember
    have hSilent := (hNames name hName).1
    rw [hNil] at hSilent
    cases hSilent

theorem closed_ofNames (h : (ofNames names).endsWithSlash = true) : (ofNames names).text = "/" := by
  by_cases hSome : names = []
  · simp [hSome, ofNames]
  · obtain ⟨c, cs, hEnd, hc⟩ := (proper_names hNames).joinSegments_end (by simpa using hSome)
    have hChars : (ofNames names).chars = '/' :: (cs ++ [c]) := by
      rw [ofNames_eq_spell, spell, chars_ofChars, hEnd]
    rw [endsWithSlash, hChars, ← List.cons_append, List.getLast?_concat] at h
    simp [hc] at h

theorem isCanonical_ofNames [WorkingDirectory] : (ofNames names).IsCanonical where
  rooted := by rw [components_ofNames hNames, List.head?_cons]
  ordinary component h := by
    rw [components_ofNames hNames, List.tail_cons] at h
    obtain ⟨name, hName, rfl⟩ := List.mem_map.mp h
    exact ⟨name, hNames name hName, rfl⟩
  single := single_ofNames hNames
  closed := closed_ofNames hNames
  stable base := by
    rw [resolve_of_isAbsolute (isAbsolute_ofNames names), foldedNames_ofNames hNames]

theorem fileName?_ofNames : (ofNames names).fileName? = names.getLast? := by
  rw [fileName?, components_ofNames hNames]
  rcases List.eq_nil_or_concat names with rfl | ⟨before, last, rfl⟩
  · rfl
  · rw [List.concat_eq_append, List.map_append, ← List.cons_append, List.map_singleton,
      List.getLast?_concat, List.getLast?_concat]
    rfl

end

/-- The canonical paths are the ones written from names. -/
theorem isCanonical_iff [WorkingDirectory] (p : Path) :
    p.IsCanonical ↔ ∃ names, (∀ name ∈ names, IsName name) ∧ p = ofNames names := by
  constructor
  · intro h
    have hAbsolute := (isAbsolute_iff p).mpr h.rooted
    refine ⟨p.foldedNames, fun _ => isName_of_mem_foldedNames, ?_⟩
    rw [← folded_eq hAbsolute]
    exact (h.stable empty).symm
  · rintro ⟨names, hNames, rfl⟩
    exact isCanonical_ofNames hNames

end StylesheetBuild.Path
