import StylesheetBuild.Proofs.Compile.Calls

/-!
# Outcomes of an execution

What an action can come to, and with which error. If it is known what the stages make of a text, whether
the renderer fails on that, and that writing succeeds, then it is known whether the compile fails and
what diagnostic an execution ends in. The actions may have any effects besides.
-/

namespace StylesheetBuild

variable {m : Type → Type} [Monad m]

/-- All that the action comes to satisfies `P`. -/
def Yields (action : m α) (P : α → Prop) : Prop :=
  ∃ run : m {a // P a}, action = Subtype.val <$> run

/-- The action fails with that error, or succeeds if there is none. -/
def FailsWith (action : ExceptT ε m α) (error? : Option ε) : Prop :=
  Yields action.run fun answer => failure? answer = error?

variable [LawfulMonad m]

namespace Yields

theorem of_pure {P : α → Prop} {a : α} (h : P a) : Yields (pure a : m α) P :=
  ⟨pure ⟨a, h⟩, by simp⟩

theorem of_any (action : m α) : Yields action fun _ => True :=
  ⟨(fun a => ⟨a, trivial⟩) <$> action, by simp⟩

theorem bind {P : α → Prop} {Q : β → Prop} {action : m α} {next : α → m β} (h : Yields action P)
    (hNext : ∀ a, P a → Yields (next a) Q) : Yields (action >>= next) Q := by
  obtain ⟨run, rfl⟩ := h
  choose rest hRest using hNext
  refine ⟨run >>= fun a => rest a.1 a.2, ?_⟩
  rw [map_bind, bind_map_left]
  congr
  funext a
  exact hRest a.1 a.2

end Yields

namespace FailsWith

theorem of_pure (a : α) : FailsWith (pure a : ExceptT ε m α) none :=
  Yields.of_pure rfl

theorem bind {action : ExceptT ε m α} {next : α → ExceptT ε m β} {error? : Option ε}
    (h : FailsWith action error?) (hNext : error? = none → ∀ a, FailsWith (next a) none) :
    FailsWith (action >>= next) error? := by
  rw [FailsWith, ExceptT.run_bind]
  apply Yields.bind h
  rintro (e | a) rfl
  · exact .of_pure rfl
  · exact hNext rfl a

/-- What succeeds leaves it to the rest whether there is an error. -/
theorem after {action : ExceptT ε m α} {a : α} {next : α → ExceptT ε m β} {error? : Option ε}
    (h : Yields action.run (· = .ok a)) (hNext : FailsWith (next a) error?) :
    FailsWith (action >>= next) error? := by
  rw [FailsWith, ExceptT.run_bind]
  apply Yields.bind h
  rintro _ rfl
  exact hNext

theorem after_lift {action : m α} {next : α → ExceptT ε m β} {error? : Option ε}
    (hNext : ∀ a, FailsWith (next a) error?) :
    FailsWith (ExceptT.lift action >>= next) error? := by
  rw [FailsWith, ExceptT.run_bind_lift]
  exact (Yields.of_any action).bind fun a _ => hNext a

end FailsWith

namespace Compiler

variable {c : Compiler m}

theorem failsWith_writes (hWrite : ∀ path content, FailsWith (c.writer.write path content) none)
    (path : Path) (output : RenderOutput) (map? : Option (Path × String)) :
    FailsWith
      (do
        let css ← c.writeArtifact path output.css
        match map? with
        | none => pure (⟨[css]⟩ : CompileReport)
        | some (path, content) => do
          let map ← c.writeArtifact path content
          pure ⟨[css, map]⟩)
      none := by
  have hArtifact (path : Path) (content : String) : FailsWith (c.writeArtifact path content) none :=
    (hWrite path content).bind fun _ _ => .of_pure _
  apply (hArtifact path output.css).bind
  intro _ css
  cases map? with
  | none => exact .of_pure _
  | some map => exact (hArtifact map.1 map.2).bind fun _ _ => .of_pure _

theorem failsWith_compileResolved [WorkingDirectory] {r : ResolvedRequest} {text : String}
    {error? : Option CompileError}
    (progress : Progress m) (hOn : r.options.isOutputDisabled = false)
    (hText : Yields (c.preprocess progress r.content).run (· = .ok text))
    (hRender : ∀ options, FailsWith (c.renderer.render text options) error?)
    (hWrite : ∀ path content, FailsWith (c.writer.write path content) none) :
    FailsWith (c.compileResolved progress r) error? := by
  rw [compileResolved, hOn, if_neg Bool.false_ne_true]
  apply FailsWith.after hText
  apply FailsWith.after_lift
  intro _
  apply (hRender _).bind
  intro _ output
  apply FailsWith.after_lift
  intro _
  exact failsWith_writes hWrite r.cssPath output _

/-- The diagnostic that an execution ends in is that of the error that its compile fails with. -/
theorem execute_yields [WorkingDirectory] {store : SettingsStore m} {d : Document} {text : String}
    {error? : Option CompileError} (progress : Progress m) (diagnostics : DiagnosticCollection)
    (hStore : Yields (store d.path) fun settings =>
      (requestOf d settings).options.isOutputDisabled = false)
    (hText : Yields (c.preprocess progress d.content).run (· = .ok text))
    (hRender : ∀ options, FailsWith (c.renderer.render text options) error?)
    (hWrite : ∀ path content, FailsWith (c.writer.write path content) none) :
    Yields (c.execute store progress d diagnostics) fun out =>
      failure? out.1.result = error?.map (Diagnostic.ofError · d.path) := by
  apply hStore.bind
  intro settings hOn
  apply (Yields.of_any _).bind
  intro _ _
  apply Yields.bind (failsWith_compileResolved progress hOn hText hRender hWrite)
  intro result hResult
  apply (Yields.of_any _).bind
  intro _ _
  apply Yields.of_pure
  rw [← hResult]
  cases result <;> rfl

end Compiler

end StylesheetBuild
