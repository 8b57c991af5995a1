import StylesheetBuild.Proofs.Path.Route

/-!
# Folding in stages

Joining is associative, and what is folded already can stand in for a base. So a path that is put
together from others resolves to the same place in one go and in stages, wherever the stages lead in
between.
-/

namespace StylesheetBuild.Path

/-! ## Joining -/

/-- The text of a base with the slash that parts it from what is joined to it. -/
def slashed (cs : List Char) : List Char :=
  if cs = [] ∨ cs.getLast? = some '/' then cs else cs ++ ['/']

theorem chars_join_eq_slashed {base p : Path} (h : p.isAbsolute = false) :
    (base.join p).chars = slashed base.chars ++ p.chars := by
  rw [chars_join h, slashed]
  split <;> simp

theorem slashed_slashed (cs : List Char) : slashed (slashed cs) = slashed cs := by
  have hClosed : slashed cs = [] ∨ (slashed cs).getLast? = some '/' := by
    unfold slashed
    split
    · assumption
    · exact .inr List.getLast?_concat
  exact if_pos hClosed

theorem slashed_concat (cs : List Char) (c : Char) :
    slashed (cs ++ [c]) = cs ++ [c] ++ if c = '/' then [] else ['/'] := by
  rw [slashed]
  split <;> simp_all

theorem slashed_append (before after : List Char) :
    slashed (slashed before ++ after) = slashed before ++ slashed after := by
  rcases List.eq_nil_or_concat after with rfl | ⟨init, last, rfl⟩
  · rw [List.append_nil, slashed_slashed]
    exact (List.append_nil _).symm
  · rw [List.concat_eq_append, slashed_concat, ← List.append_assoc, slashed_concat]
    simp only [List.append_assoc]

theorem isAbsolute_join_of_relative {p q : Path} (hp : p.isAbsolute = false)
    (hq : q.isAbsolute = false) : (p.join q).isAbsolute = false := by
  rw [isAbsolute, chars_join_eq_slashed hq, slashed]
  cases hChars : p.chars with
  | nil => simpa [isAbsolute] using hq
  | cons c cs =>
    have hFirst : (c == '/') = false := by simpa [isAbsolute, hChars] using hp
    split <;> simpa using hFirst

theorem join_of_isAbsolute {p : Path} (h : p.isAbsolute = true) (base : Path) : base.join p = p :=
  if_pos h

theorem join_assoc (a b c : Path) : a.join (b.join c) = (a.join b).join c := by
  cases hC : c.isAbsolute with
  | true => simp only [join_of_isAbsolute hC]
  | false =>
    cases hB : b.isAbsolute with
    | true =>
      have hJoined : (b.join c).isAbsolute = true := isAbsolute_joinText hB c.text
      rw [join_of_isAbsolute hJoined, join_of_isAbsolute hB]
    | false =>
      apply ext_chars
      rw [chars_join_eq_slashed (isAbsolute_join_of_relative hB hC), chars_join_eq_slashed hC,
        chars_join_eq_slashed hC, chars_join_eq_slashed hB, slashed_append, List.append_assoc]

/-! ## Resolving -/

section

variable [WorkingDirectory] {base : Path} (hBase : base.isAbsolute = true)
include hBase

theorem resolve_join (a b : Path) : base.resolve (a.join b) = (base.resolve a).resolve b := by
  have hJoined := isOk_of_isAbsolute (isAbsolute_joinText hBase a.text)
  calc
    base.resolve (a.join b) = ((base.join a).join b).folded := by rw [← folded_join, join_assoc]
    _ = (base.join a).resolve b := folded_join _ b
    _ = (base.join a).folded.resolve b := (resolve_folded hJoined b).symm
    _ = (base.resolve a).resolve b := by rw [folded_join]

theorem resolve_resolve (other a : Path) : other.resolve (base.resolve a) = base.resolve a := by
  rw [resolve_eq hBase]
  exact (isCanonical_ofNames fun _ => isName_of_mem_walk).stable other

theorem foldl_resolve (a : Path) (stages : List Path) :
    stages.foldl resolve (base.resolve a) = base.resolve (stages.foldl join a) := by
  induction stages generalizing a with
  | nil => rfl
  | cons stage stages ih => rw [List.foldl_cons, List.foldl_cons, ← resolve_join hBase, ih]

/-- Resolving takes joined paths apart, leaves what it has resolved alone, and may be done after
every stage of a path or once for all of them. -/
theorem resolve_compositional :
    (∀ a b : Path, base.resolve (a.join b) = (base.resolve a).resolve b) ∧
    (∀ other a : Path, other.resolve (base.resolve a) = base.resolve a) ∧
    ∀ (a : Path) (stages : List Path),
      stages.foldl resolve (base.resolve a) = base.resolve (stages.foldl join a) :=
  ⟨resolve_join hBase, resolve_resolve hBase, foldl_resolve hBase⟩

end

section

attribute [local instance] WorkingDirectory.root

/-- Stages that climb above the root, leave the path as it is and start again from the root. -/
theorem resolve_compositional_climbing :
    let base : Path := ⟨"//proj/./less/"⟩
    let a : Path := ⟨"../../../ui//./main/.."⟩
    let above : Path := ⟨"../../x/"⟩
    let stages : List Path := [above, ⟨""⟩, ⟨"y/../z"⟩]
    let restarted : List Path := stages ++ [⟨"/abs/"⟩]
    base.isAbsolute = true ∧ base.resolve a = ⟨"/ui"⟩ ∧
      base.resolve (a.join above) = (base.resolve a).resolve above ∧
      base.resolve (base.resolve a) = base.resolve a ∧
      stages.foldl resolve (base.resolve a) = ⟨"/x/z"⟩ ∧
      base.resolve (stages.foldl join a) = ⟨"/x/z"⟩ ∧
      base.resolve (restarted.foldl join a) = ⟨"/abs"⟩ := by
  intro base a above stages restarted
  have hBase : base.isAbsolute = true := by decide +kernel
  obtain ⟨hJoin, hResolved, hStages⟩ := resolve_compositional hBase
  have hPlace : stages.foldl resolve (base.resolve a) = ⟨"/x/z"⟩ := by decide +kernel
  have hRestarted : restarted.foldl resolve (base.resolve a) = ⟨"/abs"⟩ := by decide +kernel
  refine ⟨hBase, by decide +kernel, hJoin a above, hResolved base a, hPlace, ?_, ?_⟩
  · rw [← hStages, hPlace]
  · rw [← hStages, hRestarted]

end

end StylesheetBuild.Path
