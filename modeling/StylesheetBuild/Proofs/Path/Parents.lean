import Mathlib.Tactic.Common
import StylesheetBuild.Path.Names

/-!
# Parents and ancestors

A path is taken apart into its lead and its trunk, the segments after the lead without the silent
ones at the end. Its parent drops the last segment of the trunk; it is spelled without anything
silent at its end and so comes back as the directory of whatever is joined to it. Parents have fewer
components, so the ancestors of a path are all of them.
-/

namespace StylesheetBuild.Path

/-- The segments after the one that spells the lead. -/
def body (p : Path) : List (List Char) :=
  if p.lead.isSome then p.segments.tail else p.segments

def trunk (p : Path) : List (List Char) :=
  (dropSilent p.body.reverse).reverse

def spell (lead : Option Component) (trunk : List (List Char)) : Path :=
  match lead with
  | some .root => ofChars ('/' :: joinSegments trunk)
  | some _ => ofChars (joinSegments (['.'] :: trunk))
  | none => ofChars (joinSegments trunk)

structure Proper (lead : Option Component) (trunk : List (List Char)) : Prop where
  lead_eq : lead = none ∨ lead = some .root ∨ lead = some .current
  noSlash : ∀ s ∈ trunk, '/' ∉ s
  ends : ∀ s ∈ trunk.getLast?, isSilent s = false
  starts : lead = none → ∀ s ∈ trunk.head?, isSilent s = false

theorem lead_cases (p : Path) : p.lead = none ∨ p.lead = some .root ∨ p.lead = some .current := by
  unfold lead
  split
  · simp
  · split <;> simp

theorem noSlash_splitOn (cs : List Char) : ∀ s ∈ cs.splitOn '/', '/' ∉ s := by
  induction cs with
  | nil => simp
  | cons c cs ih =>
    intro s hs
    rw [List.splitOn_cons_eq_if_modifyHead] at hs
    split at hs
    · rcases List.mem_cons.mp hs with rfl | hs
      · simp
      · exact ih s hs
    · rename_i hc
      obtain ⟨first, rest, hSplit⟩ := List.exists_cons_of_ne_nil (List.splitOn_ne_nil '/' cs)
      rw [hSplit] at hs ih
      rcases List.mem_cons.mp hs with rfl | hs
      · simp only [beq_iff_eq] at hc
        simpa [Ne.symm hc] using ih first (by simp)
      · exact ih s (by simp [hs])

theorem dropSilent_suffix (segments : List (List Char)) : dropSilent segments <:+ segments :=
  List.dropWhile_suffix isSilent

theorem mem_head?_mono {xs ys : List α} (h : xs <+: ys) {a : α} (ha : a ∈ xs.head?) :
    a ∈ ys.head? := by
  obtain ⟨more, rfl⟩ := h
  rw [List.head?_append, Option.mem_def.mp ha]
  rfl

theorem filterMap_dropSilent (segments : List (List Char)) :
    (dropSilent segments).filterMap Component.ofSegment? =
      segments.filterMap Component.ofSegment? := by
  induction segments with
  | nil => rfl
  | cons s segments ih =>
    rw [dropSilent, List.dropWhile_cons]
    split
    · rename_i hSilent
      rw [List.filterMap_cons_none (by simpa [isSilent] using hSilent)]
      exact ih
    · rfl

theorem head?_dropSilent (segments : List (List Char)) :
    ∀ s ∈ (dropSilent segments).head?, isSilent s = false := by
  intro s hs
  have hFirst := List.head?_dropWhile_not isSilent segments
  rw [dropSilent] at hs
  rw [Option.mem_def.mp hs] at hFirst
  simpa using hFirst

theorem trunk_isPrefix (p : Path) : p.trunk <+: p.body := by
  rw [trunk, ← List.reverse_suffix, List.reverse_reverse]
  exact dropSilent_suffix _

theorem noSlash_body (p : Path) : ∀ s ∈ p.body, '/' ∉ s := by
  intro s hs
  apply noSlash_splitOn p.chars s
  rw [body] at hs
  split at hs
  · exact List.mem_of_mem_tail hs
  · exact hs

theorem isSilent_iff (segment : List Char) :
    isSilent segment = true ↔ segment = [] ∨ segment = ['.'] := by
  unfold isSilent Component.ofSegment?
  split
  · simp_all
  · split <;> simp_all

/-- The first segment spells the lead or is the first one of the body; an empty path has a single
segment without text. -/
theorem segments_cases (p : Path) :
    (∃ first, isSilent first = true ∧ p.lead.isSome = true ∧ p.segments = first :: p.body) ∨
      (p.lead = none ∧ p.segments = p.body ∧
        (p.body = [[]] ∨ ∀ s ∈ p.body.head?, isSilent s = false)) := by
  cases hChars : p.chars with
  | nil =>
    have hLead : p.lead = none := by simp [lead, isAbsolute, segments, hChars]
    refine .inr ⟨hLead, ?_, .inl ?_⟩ <;> simp [body, hLead, segments, hChars]
  | cons c cs =>
    by_cases hSlash : c = '/'
    · have hLead : p.lead = some .root := by simp [lead, isAbsolute, hChars, hSlash]
      refine .inl ⟨[], rfl, by simp [hLead], ?_⟩
      simp [body, hLead, segments, hChars, hSlash, List.splitOn_cons_eq_if_modifyHead]
    · obtain ⟨first, rest, hSplit⟩ := List.exists_cons_of_ne_nil (List.splitOn_ne_nil '/' cs)
      have hSegments : p.segments = (c :: first) :: rest := by
        simp [segments, hChars, hSlash, List.splitOn_cons_eq_if_modifyHead, hSplit]
      by_cases hCurrent : c :: first = ['.']
      · have hLead : p.lead = some .current := by
          simp [lead, isAbsolute, hChars, hSlash, hSegments, hCurrent]
        refine .inl ⟨c :: first, by simp [isSilent_iff, hCurrent], by simp [hLead], ?_⟩
        simp [body, hLead, hSegments]
      · have hLead : p.lead = none := by
          rw [lead, hSegments, List.head?_cons, if_neg (by simp [isAbsolute, hChars, hSlash]),
            if_neg (by simpa using hCurrent)]
        have hBody : p.body = (c :: first) :: rest := by simp [body, hLead, hSegments]
        refine .inr ⟨hLead, by rw [hSegments, hBody], .inr ?_⟩
        rw [hBody]
        rintro s ⟨⟩
        rw [← Bool.not_eq_true, isSilent_iff]
        simpa using hCurrent

theorem proper_trunk (p : Path) : Proper p.lead p.trunk where
  lead_eq := p.lead_cases
  noSlash s hs := p.noSlash_body s (p.trunk_isPrefix.subset hs)
  ends := by
    rw [trunk, List.getLast?_reverse]
    exact head?_dropSilent _
  starts := by
    intro hLead s hs
    rcases p.segments_cases with ⟨first, -, hSome, -⟩ | ⟨-, -, hEmpty | hFirst⟩
    · simp [hLead] at hSome
    · simp [trunk, hEmpty, dropSilent, isSilent_iff] at hs
    · exact hFirst s (mem_head?_mono p.trunk_isPrefix hs)

theorem steps_eq (p : Path) : p.steps = p.trunk.filterMap Component.ofSegment? := by
  have hBody : p.steps = p.body.filterMap Component.ofSegment? := by
    rcases p.segments_cases with ⟨first, hSilent, -, hSegments⟩ | ⟨-, hSegments, -⟩
    · rw [steps, hSegments, List.filterMap_cons_none (by simpa [isSilent] using hSilent)]
    · rw [steps, hSegments]
  rw [hBody, trunk, List.filterMap_reverse, filterMap_dropSilent, ← List.filterMap_reverse,
    List.reverse_reverse]

theorem parent?_eq (p : Path) :
    p.parent? = match p.trunk.reverse with
      | [] => if p.lead = some .current then some empty else none
      | _ :: rest => some (spell p.lead (dropSilent rest).reverse) := by
  rw [trunk, List.reverse_reverse, body, parent?]
  rcases p.lead_cases with hLead | hLead | hLead <;> rw [hLead]
  · simp only [Option.isSome_none, Bool.false_eq_true, if_false]
    split <;> simp_all [spell]
  · simp only [Option.isSome_some, if_true]
    split <;> simp_all [spell]
  · simp only [Option.isSome_some, if_true]
    split <;> simp_all [spell]

namespace Proper

variable {lead : Option Component} {trunk : List (List Char)}

theorem splitOn_joinSegments (h : Proper lead trunk) :
    (joinSegments trunk).splitOn '/' = if trunk = [] then [[]] else trunk := by
  split
  · rename_i hEmpty
    simp [hEmpty, joinSegments]
  · rename_i hSome
    exact List.splitOn_intercalate '/' h.noSlash hSome

theorem segments_spell (h : Proper lead trunk) :
    (spell lead trunk).segments = match lead with
      | some .root => [] :: if trunk = [] then [[]] else trunk
      | some _ => ['.'] :: trunk
      | none => if trunk = [] then [[]] else trunk := by
  rcases h.lead_eq with rfl | rfl | rfl
  · simp [spell, segments, chars_ofChars, h.splitOn_joinSegments]
  · simp [spell, segments, chars_ofChars, List.splitOn_cons_eq_if_modifyHead,
      h.splitOn_joinSegments]
  · change (ofChars (joinSegments (['.'] :: trunk))).segments = ['.'] :: trunk
    rw [segments, chars_ofChars, joinSegments]
    refine List.splitOn_intercalate '/' ?_ (by simp)
    intro s hs
    rcases List.mem_cons.mp hs with rfl | hs
    · simp
    · exact h.noSlash s hs

theorem isAbsolute_spell (h : Proper lead trunk) :
    (spell lead trunk).isAbsolute = true ↔ lead = some .root := by
  rcases h.lead_eq with rfl | rfl | rfl
  · cases trunk with
    | nil => simp [spell, isAbsolute, chars_ofChars, joinSegments]
    | cons s trunk =>
      have hSilent := h.starts rfl s rfl
      have hSlash := h.noSlash s (by simp)
      cases s with
      | nil => simp [isSilent_iff, ← Bool.not_eq_true] at hSilent
      | cons c s =>
        have hc : c ≠ '/' := by
          rintro rfl
          simp at hSlash
        cases trunk <;> simp [spell, isAbsolute, chars_ofChars, joinSegments, hc]
  · simp [spell, isAbsolute, chars_ofChars]
  · refine iff_of_false ?_ (by decide)
    cases trunk <;> simp [spell, isAbsolute, chars_ofChars, joinSegments]

theorem lead_spell (h : Proper lead trunk) : (spell lead trunk).lead = lead := by
  have hAbsolute := h.isAbsolute_spell
  rw [Path.lead, h.segments_spell]
  rcases h.lead_eq with rfl | rfl | rfl
  · simp only [reduceCtorEq, iff_false] at hAbsolute
    rw [if_neg hAbsolute]
    cases trunk with
    | nil => simp
    | cons s trunk =>
      have hSilent := h.starts rfl s rfl
      have hOther : s ≠ ['.'] := by
        rintro rfl
        simp [isSilent_iff, ← Bool.not_eq_true] at hSilent
      simp [hOther]
  · simp [hAbsolute]
  · rw [if_neg fun hRoot => absurd (hAbsolute.mp hRoot) (by decide)]
    simp

theorem dropSilent_reverse (h : Proper lead trunk) : dropSilent trunk.reverse = trunk.reverse := by
  cases hReversed : trunk.reverse with
  | nil => rfl
  | cons s rest =>
    have hLast : trunk.getLast? = some s := by rw [← List.head?_reverse, hReversed]; rfl
    simp [dropSilent, h.ends s hLast]

theorem trunk_spell (h : Proper lead trunk) : (spell lead trunk).trunk = trunk := by
  have hKept : (dropSilent (if trunk = [] then [[]] else trunk).reverse).reverse = trunk := by
    split
    · rename_i hEmpty
      simp [hEmpty, dropSilent, isSilent_iff]
    · rw [h.dropSilent_reverse, List.reverse_reverse]
  rw [Path.trunk, body, h.lead_spell, h.segments_spell]
  rcases h.lead_eq with rfl | rfl | rfl
  · simpa using hKept
  · simpa using hKept
  · simp [h.dropSilent_reverse]

theorem kept (h : Proper lead trunk) {s : List Char} {rest : List (List Char)}
    (hReversed : trunk.reverse = s :: rest) : Proper lead (dropSilent rest).reverse := by
  have hPrefix : (dropSilent rest).reverse <+: trunk := by
    rw [← List.reverse_suffix, List.reverse_reverse, hReversed]
    exact (dropSilent_suffix rest).trans (List.suffix_cons s rest)
  refine ⟨h.lead_eq, fun s hs => h.noSlash s (hPrefix.subset hs), ?_, ?_⟩
  · rw [List.getLast?_reverse]
    exact head?_dropSilent rest
  · intro hLead s hs
    exact h.starts hLead s (mem_head?_mono hPrefix hs)

theorem concat (h : Proper lead trunk) {name : List Char} (hName : isSilent name = false)
    (hSlash : '/' ∉ name) : Proper lead (trunk ++ [name]) where
  lead_eq := h.lead_eq
  noSlash s hs := by
    rcases List.mem_append.mp hs with hs | hs
    · exact h.noSlash s hs
    · rw [List.mem_singleton.mp hs]
      exact hSlash
  ends s hs := by
    rw [List.getLast?_concat] at hs
    cases hs
    exact hName
  starts hLead s hs := by
    cases trunk with
    | nil =>
      cases hs
      exact hName
    | cons first trunk => exact h.starts hLead s hs

end Proper

def IsTrimmed (p : Path) : Prop :=
  ∃ lead trunk, Proper lead trunk ∧ p = spell lead trunk

theorem parent?_cases {p q : Path} (h : p.parent? = some q) :
    (p.lead = some .current ∧ p.trunk = [] ∧ q = empty) ∨
      ∃ s rest, p.trunk.reverse = s :: rest ∧ q = spell p.lead (dropSilent rest).reverse := by
  rw [parent?_eq] at h
  split at h
  · rename_i hEmpty
    split at h
    · rename_i hLead
      exact .inl ⟨hLead, by simpa using hEmpty, by simpa using h.symm⟩
    · cases h
  · rename_i s rest hReversed
    exact .inr ⟨s, rest, hReversed, by simpa using h.symm⟩

theorem isTrimmed_of_parent? {p q : Path} (h : p.parent? = some q) : q.IsTrimmed := by
  rcases parent?_cases h with ⟨-, -, rfl⟩ | ⟨s, rest, hReversed, rfl⟩
  · exact ⟨none, [], ⟨.inl rfl, by simp, by simp, by simp⟩, rfl⟩
  · exact ⟨p.lead, _, p.proper_trunk.kept hReversed, rfl⟩

/-- The parent is the path without its last component. -/
theorem components_of_parent? {p q : Path} (h : p.parent? = some q) :
    ∃ last, p.components = q.components ++ [last] := by
  rw [components, p.steps_eq, components, q.steps_eq]
  rcases parent?_cases h with ⟨hLead, hTrunk, rfl⟩ | ⟨s, rest, hReversed, rfl⟩
  · exact ⟨.current, by rw [hLead, hTrunk]; rfl⟩
  · have hKept := p.proper_trunk.kept hReversed
    have hTrunk : p.trunk = rest.reverse ++ [s] := by
      rw [← List.reverse_reverse p.trunk, hReversed, List.reverse_cons]
    have hLast : isSilent s = false := p.proper_trunk.ends s (by simp [hTrunk])
    obtain ⟨last, hStep⟩ : ∃ last, Component.ofSegment? s = some last := by
      cases hStep : Component.ofSegment? s with
      | none => simp [isSilent, hStep] at hLast
      | some last => exact ⟨last, rfl⟩
    refine ⟨last, ?_⟩
    rw [hKept.lead_spell, hKept.trunk_spell, hTrunk, List.filterMap_append, List.filterMap_reverse,
      List.filterMap_reverse, filterMap_dropSilent]
    simp [hStep]

theorem ancestors_eq (p : Path) : p.ancestors = p :: (p.parent?.map ancestors).getD [] := by
  rw [ancestors]
  cases hParent : p.parent? with
  | none => cases p.components.length <;> simp [ancestorsUpTo, hParent]
  | some q =>
    obtain ⟨last, hLast⟩ := components_of_parent? hParent
    rw [hLast, List.length_append, List.length_singleton, ancestorsUpTo, hParent]
    rfl

theorem chars_join {base p : Path} (h : p.isAbsolute = false) :
    (base.join p).chars =
      if base.chars = [] ∨ base.chars.getLast? = some '/' then base.chars ++ p.chars
      else base.chars ++ '/' :: p.chars := by
  have hEmpty : base.isEmpty = true ↔ base.chars = [] := by simp [isEmpty, chars]
  rw [join, if_neg (by simp [h])]
  simp only [Bool.or_eq_true, hEmpty, endsWithSlash, beq_iff_eq]
  split <;> simp [chars]

theorem isAbsolute_of_noSlash {name : String} (h : '/' ∉ name.toList) :
    (Path.mk name).isAbsolute = false := by
  rw [← Bool.not_eq_true]
  intro hAbsolute
  exact h (List.mem_of_mem_head? (by simpa [isAbsolute, chars] using hAbsolute))

theorem chars_joinText (p : Path) {name : String} (hSlash : '/' ∉ name.toList) :
    (p.joinText name).chars =
      if p.chars = [] ∨ p.chars.getLast? = some '/' then p.chars ++ name.toList
      else p.chars ++ '/' :: name.toList :=
  chars_join (isAbsolute_of_noSlash hSlash)

theorem joinSegments_cons {segments : List (List Char)} (h : segments ≠ []) (s : List Char) :
    joinSegments (s :: segments) = s ++ '/' :: joinSegments segments := by
  rw [joinSegments, List.intercalate_cons_of_ne_nil h]
  simp [joinSegments]

theorem joinSegments_concat {segments : List (List Char)} (h : segments ≠ []) (s : List Char) :
    joinSegments (segments ++ [s]) = joinSegments segments ++ '/' :: s := by
  induction segments with
  | nil => exact absurd rfl h
  | cons first rest ih =>
    rw [List.cons_append, joinSegments_cons (by simp)]
    by_cases hRest : rest = []
    · simp [hRest, joinSegments]
    · rw [ih hRest, joinSegments_cons hRest, List.append_assoc, List.cons_append]

theorem Proper.joinSegments_end {lead : Option Component} {trunk : List (List Char)}
    (h : Proper lead trunk) (hSome : trunk ≠ []) :
    ∃ c cs, joinSegments trunk = cs ++ [c] ∧ c ≠ '/' := by
  rcases List.eq_nil_or_concat trunk with rfl | ⟨before, s, rfl⟩
  · exact absurd rfl hSome
  have hSilent := h.ends s (by simp)
  have hSlash := h.noSlash s (by simp)
  rcases List.eq_nil_or_concat s with rfl | ⟨cs, c, rfl⟩
  · simp [isSilent_iff, ← Bool.not_eq_true] at hSilent
  have hc : c ≠ '/' := by
    rintro rfl
    simp at hSlash
  by_cases hBefore : before = []
  · exact ⟨c, cs, by simp [hBefore, joinSegments], hc⟩
  · exact ⟨c, joinSegments before ++ '/' :: cs, by simp [joinSegments_concat hBefore], hc⟩

theorem ext_chars {p q : Path} (h : p.chars = q.chars) : p = q :=
  congrArg Path.mk (String.toList_inj.mp h)

theorem joinText_spell {lead : Option Component} {trunk : List (List Char)} (h : Proper lead trunk)
    {name : String} (hSlash : '/' ∉ name.toList) :
    (spell lead trunk).joinText name = spell lead (trunk ++ [name.toList]) := by
  apply ext_chars
  rw [chars_joinText _ hSlash]
  by_cases hTrunk : trunk = []
  · rcases h.lead_eq with rfl | rfl | rfl <;>
      simp [hTrunk, spell, chars_ofChars, joinSegments]
  · obtain ⟨c, cs, hEnd, hc⟩ := h.joinSegments_end hTrunk
    have hConcat := joinSegments_concat hTrunk name.toList
    have hLast : ('/' :: (cs ++ [c])).getLast? = some c := by
      rw [← List.cons_append, List.getLast?_concat]
    rcases h.lead_eq with rfl | rfl | rfl
    · simp [spell, chars_ofChars, hConcat, hEnd, hc]
    · simp [spell, chars_ofChars, hConcat, hEnd, hLast, hc]
    · simp [spell, chars_ofChars, joinSegments_cons, hTrunk, hConcat, hEnd, hLast, hc]

/-- What is joined to a trimmed path lies in the directory of that spelling. -/
theorem IsTrimmed.directory_joinText {p : Path} (h : p.IsTrimmed) {name : String}
    (hName : isSilent name.toList = false) (hSlash : '/' ∉ name.toList) :
    (p.joinText name).directory = p := by
  obtain ⟨lead, trunk, hProper, rfl⟩ := h
  have hJoined := hProper.concat hName hSlash
  have hReversed : (trunk ++ [name.toList]).reverse = name.toList :: trunk.reverse := by simp
  rw [joinText_spell hProper hSlash, directory, parent?_eq, hJoined.trunk_spell, hJoined.lead_spell,
    hReversed]
  simp [hProper.dropSilent_reverse]

end StylesheetBuild.Path
