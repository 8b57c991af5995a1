import Mathlib.Tactic.Common
import StylesheetBuild.Compile.Command

/-!
# Calls of a compile

What a compile asks of its stages, its renderer and its writer, together with their answers. A
compiler is recorded by noting down each call as it is answered; `Traced` relates a recorded program
to the plain one and is carried through sequencing by `Traced.bind`. Nothing is assumed of the
collaborators: their effects and answers are those of an arbitrary lawful monad.
-/

namespace StylesheetBuild

structure StageCall where
  /-- The number of the stage in the order of registration. -/
  index : Nat
  content : String
  context : StageContext
  answer : Except CompileError (String × StageContext)

structure RenderCall where
  content : String
  options : RendererOptions
  answer : Except CompileError RenderOutput

structure WriteCall where
  path : Path
  content : String
  answer : Except CompileError Unit

inductive Call where
  | stage (call : StageCall)
  | render (call : RenderCall)
  | write (call : WriteCall)

def failure? : Except ε α → Option ε
  | .error e => some e
  | .ok _ => none

def Call.error? : Call → Option CompileError
  | stage call => failure? call.answer
  | render call => failure? call.answer
  | write call => failure? call.answer

/-- A monad with the calls made so far, the first one at the head. -/
abbrev Recording (m : Type → Type) := StateT (List Call) m

variable {m : Type → Type} [Monad m]

def record (call : Except CompileError α → Call) (action : ExceptT CompileError m α) :
    ExceptT CompileError (Recording m) α :=
  ExceptT.mk fun before => do
    let answer ← action.run
    pure (answer, before ++ [call answer])

def Stage.recorded (stage : Stage m) (index : Nat) : Stage (Recording m) where
  name := stage.name
  process content context :=
    record (fun answer => .stage ⟨index, content, context, answer⟩) (stage.process content context)

def Stage.recordedFrom (first : Nat) (stages : List (Stage m)) : List (Stage (Recording m)) :=
  (stages.zipIdx first).map fun (stage, index) => stage.recorded index

def Renderer.recorded (renderer : Renderer m) : Renderer (Recording m) where
  name := renderer.name
  render content options :=
    record (fun answer => .render ⟨content, options, answer⟩) (renderer.render content options)

def ArtifactWriter.recorded (writer : ArtifactWriter m) : ArtifactWriter (Recording m) where
  write path content :=
    record (fun answer => .write ⟨path, content, answer⟩) (writer.write path content)

def Progress.recorded (progress : Progress m) : Progress (Recording m) where
  started label := StateT.lift (progress.started label)
  phase p := StateT.lift (progress.phase p)
  done r := StateT.lift (progress.done r)
  failed d := StateT.lift (progress.failed d)

def SettingsStore.recorded (store : SettingsStore m) : SettingsStore (Recording m) :=
  fun path => StateT.lift (store path)

def Compiler.recorded (c : Compiler m) : Compiler (Recording m) where
  stages := Stage.recordedFrom 0 c.stages
  renderer := c.renderer.recorded
  writer := c.writer.recorded

theorem Compiler.recorded_isEmpty (c : Compiler m) :
    c.recorded.stages.isEmpty = c.stages.isEmpty := by
  cases hStages : c.stages <;> simp [recorded, Stage.recordedFrom, hStages]

omit [Monad m] in
theorem Compiler.not_isEmpty (c : Compiler m) : (!c.stages.isEmpty) = (c.stages.length != 0) := by
  cases c.stages <;> rfl

def Compiler.recordedCompile [WorkingDirectory] (c : Compiler m) (progress : Progress m)
    (r : ResolvedRequest) :
    m (Except CompileError CompileReport × List Call) :=
  (c.recorded.compileResolved progress.recorded r).run.run []

/-- What an execution comes to, with the calls that it makes. -/
def Compiler.recordedExecute [WorkingDirectory] (c : Compiler m)
    (store : SettingsStore (Recording m))
    (progress : Progress m) (d : Document) (diagnostics : DiagnosticCollection) :
    m ((CommandOutcome × DiagnosticCollection) × List Call) :=
  (c.recorded.execute store progress.recorded d diagnostics).run []

/-- Both programs run alike, and the recorded one adds calls that stand in the relation `P` to the
result. -/
def Traced (plain : ExceptT CompileError m α) (recorded : ExceptT CompileError (Recording m) α)
    (P : List Call → Except CompileError α → Prop) : Prop :=
  ∃ run : m {out : List Call × Except CompileError α // P out.1 out.2},
    plain.run = (fun out => out.1.2) <$> run ∧
    ∀ before, recorded.run.run before = (fun out => (out.1.2, before ++ out.1.1)) <$> run

namespace Traced

variable [LawfulMonad m] {P Q : List Call → Except CompileError α → Prop}

theorem imp {plain : ExceptT CompileError m α} {recorded : ExceptT CompileError (Recording m) α}
    (h : Traced plain recorded P) (hPQ : ∀ calls result, P calls result → Q calls result) :
    Traced plain recorded Q := by
  obtain ⟨run, hPlain, hRecorded⟩ := h
  refine ⟨(fun out => ⟨out.1, hPQ _ _ out.2⟩) <$> run, ?_, ?_⟩
  · rw [hPlain, ← comp_map]
    rfl
  · intro before
    rw [hRecorded before, ← comp_map]
    rfl

theorem of_pure (a : α) (h : P [] (.ok a)) : Traced (pure a : ExceptT CompileError m α) (pure a) P := by
  refine ⟨pure ⟨([], .ok a), h⟩, ?_, ?_⟩
  · simp
  · intro before
    simp

/-- The answer to a call is one of those that the action can give. -/
theorem of_record_of_run {P : Except CompileError α → Prop} (call : Except CompileError α → Call)
    {action : ExceptT CompileError m α} (answers : m {answer // P answer})
    (h : action.run = Subtype.val <$> answers) :
    Traced action (record call action) fun calls result => calls = [call result] ∧ P result := by
  refine ⟨(fun answer => ⟨([call answer.1], answer.1), rfl, answer.2⟩) <$> answers, ?_, ?_⟩
  · rw [h, ← comp_map]
    rfl
  · intro before
    simp [record, StateT.run, h]

theorem of_record (call : Except CompileError α → Call) (action : ExceptT CompileError m α) :
    Traced action (record call action) fun calls result => calls = [call result] := by
  have hAny : action.run =
      Subtype.val <$> (fun answer => (⟨answer, trivial⟩ : {_answer // True})) <$> action.run := by
    simp
  exact (of_record_of_run call _ hAny).imp fun _ _ h => h.1

theorem of_lift (action : m α) :
    Traced (ExceptT.lift action) (ExceptT.lift (StateT.lift action)) fun calls result =>
      calls = [] ∧ failure? result = none := by
  refine ⟨(fun a => ⟨([], .ok a), rfl, rfl⟩) <$> action, ?_, ?_⟩
  · simp
  · intro before
    simp

theorem bind {P : List Call → Except CompileError α → Prop}
    {Q : List Call → Except CompileError β → Prop}
    {plain : ExceptT CompileError m α} {recorded : ExceptT CompileError (Recording m) α}
    {next : α → ExceptT CompileError m β} {nextRecorded : α → ExceptT CompileError (Recording m) β}
    (h : Traced plain recorded P)
    (hError : ∀ calls e, P calls (.error e) → Q calls (.error e))
    (hOk : ∀ calls a, P calls (.ok a) →
      Traced (next a) (nextRecorded a) fun more result => Q (calls ++ more) result) :
    Traced (plain >>= next) (recorded >>= nextRecorded) Q := by
  obtain ⟨run, hPlain, hRecorded⟩ := h
  choose rest hRestPlain hRestRecorded using hOk
  let continued : {out : List Call × Except CompileError α // P out.1 out.2} →
      m {out : List Call × Except CompileError β // Q out.1 out.2}
    | ⟨(calls, .error e), hP⟩ => pure ⟨(calls, .error e), hError calls e hP⟩
    | ⟨(calls, .ok a), hP⟩ => (fun out => ⟨(calls ++ out.1.1, out.1.2), out.2⟩) <$> rest calls a hP
  refine ⟨run >>= continued, ?_, ?_⟩
  · rw [ExceptT.run_bind, hPlain, map_bind, bind_map_left]
    congr
    funext ⟨⟨calls, result⟩, hP⟩
    cases result with
    | error e => simp [continued]
    | ok a => simp [continued, hRestPlain calls a hP]
  · intro before
    rw [ExceptT.run_bind, StateT.run_bind, hRecorded before, map_bind, bind_map_left]
    congr
    funext ⟨⟨calls, result⟩, hP⟩
    cases result with
    | error e => simp [continued]
    | ok a => simp [continued, hRestRecorded calls a hP]

/-- Reporting a phase before going on makes no difference to the calls. -/
theorem after_lift {Q : List Call → Except CompileError β → Prop} (action : m α)
    {next : α → ExceptT CompileError m β} {nextRecorded : α → ExceptT CompileError (Recording m) β}
    (h : ∀ a, Traced (next a) (nextRecorded a) Q) :
    Traced (ExceptT.lift action >>= next) (ExceptT.lift (StateT.lift action) >>= nextRecorded) Q := by
  apply (of_lift action).bind
  · rintro calls e ⟨-, hFails⟩
    cases hFails
  · rintro calls a ⟨rfl, -⟩
    exact h a

end Traced

end StylesheetBuild
