import StylesheetBuild.Compile.Pipeline
import StylesheetBuild.Proofs.Options.Layers

/-!
# Laws of merging

Layers may be merged in any grouping, the layer that sets nothing makes no difference, and of a layer
that stands in two places only the higher one counts. So directives that have been read once change
nothing when they are read again over the options that they led to.
-/

namespace StylesheetBuild

namespace Options

theorem empty_merge (o : Options) : empty.merge o = o := by
  apply ext_get?
  intro α k
  rw [get?_merge, get?_empty, Option.or_none]

theorem merge_empty (o : Options) : o.merge empty = o := by
  apply ext_get?
  intro α k
  rw [get?_merge, get?_empty, Option.none_or]

theorem merge_assoc (a b c : Options) : (a.merge b).merge c = a.merge (b.merge c) := by
  apply ext_get?
  intro α k
  simp only [get?_merge, Option.or_assoc]

/-- A layer below is absorbed by the same layer above, whatever stands between them. -/
theorem merge_merge_self (a b : Options) : (a.merge b).merge a = b.merge a := by
  apply ext_get?
  intro α k
  simp only [get?_merge]
  cases a.get? k <;> simp

theorem merge_self (a : Options) : a.merge a = a := by
  have hAbsorbed := merge_merge_self a empty
  rwa [merge_empty, empty_merge] at hAbsorbed

theorem merge_merge_right (a b : Options) : (a.merge b).merge b = a.merge b := by
  rw [merge_assoc, merge_self]

/-- Reading the directives of a content once more over what they led to. -/
theorem withDirectives_withDirectives (defaults : Options) (content : String) :
    (defaults.withDirectives content).withDirectives content = defaults.withDirectives content :=
  merge_merge_right defaults (ofContent content)

end Options

theorem CompileRequest.resolve_resolve (r : CompileRequest) :
    ({ r with defaults := r.resolve.options } : CompileRequest).resolve = r.resolve := by
  rw [resolve, resolve]
  dsimp only
  rw [Options.withDirectives_withDirectives]

/-- The laws of merging, and what they come to for a request with options that have already been
resolved: it resolves to them again, and compiling it is compiling with them. -/
theorem compile_of_resolved_defaults [WorkingDirectory] :
    (∀ a b c : Options, (a.merge b).merge c = a.merge (b.merge c)) ∧
    (∀ o : Options, Options.empty.merge o = o ∧ o.merge Options.empty = o) ∧
    (∀ a b : Options, (a.merge b).merge a = b.merge a ∧ (a.merge b).merge b = a.merge b) ∧
    ∀ r : CompileRequest,
      (∀ (source : Path) (workspaceRoot : Option Path),
        (⟨source, r.content, r.resolve.options, workspaceRoot⟩ : CompileRequest).resolve.options =
          r.resolve.options) ∧
      ∀ {m : Type → Type} [Monad m] (c : Compiler m) (progress : Progress m),
        c.compile progress { r with defaults := r.resolve.options } =
          c.compileResolved progress r.resolve := by
  refine ⟨Options.merge_assoc, fun o => ⟨o.empty_merge, o.merge_empty⟩,
    fun a b => ⟨a.merge_merge_self b, a.merge_merge_right b⟩, fun r => ⟨?_, ?_⟩⟩
  · intro source workspaceRoot
    exact r.defaults.withDirectives_withDirectives r.content
  · intro m _ c progress
    rw [Compiler.compile, r.resolve_resolve]

end StylesheetBuild
