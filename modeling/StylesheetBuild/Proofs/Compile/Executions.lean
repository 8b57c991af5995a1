import StylesheetBuild.Proofs.Diagnostic.Attempts
import StylesheetBuild.Renderer.Script

/-!
# Series of executions

Executions one after another that share nothing but the collection of diagnostics; each may have a
compiler, settings and a document of its own. No execution reads the collection, so a series is
determined by the attempts that it makes, and what it leaves behind is read off them.
-/

namespace StylesheetBuild

structure Execution (m : Type → Type) where
  compiler : Compiler m
  store : SettingsStore m
  progress : Progress m
  document : Document

namespace Execution

section

variable {m : Type → Type} [Monad m] [WorkingDirectory]

def run (e : Execution m) (diagnostics : DiagnosticCollection) :
    m (Attempt × DiagnosticCollection) := do
  let (outcome, diagnostics) ← e.compiler.execute e.store e.progress e.document diagnostics
  pure (⟨e.document.path, outcome.result⟩, diagnostics)

def runAll : List (Execution m) → DiagnosticCollection → m (List Attempt × DiagnosticCollection)
  | [], diagnostics => pure ([], diagnostics)
  | e :: es, diagnostics => do
    let (a, diagnostics) ← e.run diagnostics
    let (attempts, diagnostics) ← runAll es diagnostics
    pure (a :: attempts, diagnostics)

/-- The result of the execution, whatever the diagnostics before it. -/
def answer (e : Execution m) : m (Except Diagnostic CompileReport) := do
  let (outcome, _) ← e.compiler.execute e.store e.progress e.document .empty
  pure outcome.result

variable [LawfulMonad m]

theorem run_eq (e : Execution m) (diagnostics : DiagnosticCollection) :
    e.run diagnostics = (fun result =>
      (⟨e.document.path, result⟩, diagnostics.record e.document.path result)) <$> e.answer := by
  rw [run, answer, Compiler.execute_eq]
  simp

/-- The attempts of a series are those of its documents, and they alone change the diagnostics. -/
theorem runAll_eq (es : List (Execution m)) (diagnostics : DiagnosticCollection) :
    ∃ attempted : m {attempts : List Attempt //
        attempts.map Attempt.document = es.map fun e => e.document.path},
      runAll es diagnostics = (fun attempts => (attempts.1,
        attempts.1.foldl (fun c a => c.record a.document a.result) diagnostics)) <$> attempted := by
  induction es generalizing diagnostics with
  | nil => exact ⟨pure ⟨[], rfl⟩, by simp [runAll]⟩
  | cons e es ih =>
    choose further hFurther using ih
    let attempted : m {attempts : List Attempt //
        attempts.map Attempt.document = (e :: es).map fun e => e.document.path} := do
      let result ← e.answer
      let attempts ← further (diagnostics.record e.document.path result)
      pure ⟨⟨e.document.path, result⟩ :: attempts.1, by simp [attempts.2]⟩
    refine ⟨attempted, ?_⟩
    simp [runAll, run_eq, hFurther, attempted]

theorem runAll_satisfies {P : List Attempt × DiagnosticCollection → Prop} (es : List (Execution m))
    (diagnostics : DiagnosticCollection)
    (h : ∀ attempts, P (attempts, diagnostics.recordAll attempts)) :
    ∃ run : m {out : List Attempt × DiagnosticCollection // P out},
      runAll es diagnostics = Subtype.val <$> run := by
  obtain ⟨attempted, hAttempted⟩ := runAll_eq es diagnostics
  refine ⟨(fun attempts => ⟨_, h attempts.1⟩) <$> attempted, ?_⟩
  rw [hAttempted, ← comp_map]
  rfl

/-- Whatever a series of executions has come to, the diagnostics reflect its attempts, and a further
execution changes the entry of one file at most. -/
theorem runAll_diagnostics (es : List (Execution m)) :
    (∃ run : m {out : List Attempt × DiagnosticCollection //
        out.1.map Attempt.document = es.map (fun e => e.document.path) ∧
        out.2.Reflects out.1 ∧ out.2.Orderly},
      runAll es .empty = Subtype.val <$> run) ∧
    ∀ (e : Execution m) (diagnostics : DiagnosticCollection),
      ∃ run : m {out : Attempt × DiagnosticCollection //
          out.1.document = e.document.path ∧
          ∀ key : Path.Key, key ≠ out.1.touched.key →
            out.2.entries[key]? = diagnostics.entries[key]?},
        e.run diagnostics = Subtype.val <$> run := by
  constructor
  · obtain ⟨attempted, hAttempted⟩ := runAll_eq es .empty
    refine ⟨(fun attempts => ⟨(attempts.1, .ofAttempts attempts.1), attempts.2, ?_, ?_⟩) <$>
      attempted, ?_⟩
    · exact DiagnosticCollection.reflects_ofAttempts attempts.1
    · exact (DiagnosticCollection.filed_ofAttempts attempts.1).orderly
    · rw [hAttempted, ← comp_map]
      rfl
  · intro e diagnostics
    refine ⟨(fun result =>
      ⟨(⟨e.document.path, result⟩, diagnostics.record e.document.path result), rfl, ?_⟩) <$>
        e.answer, ?_⟩
    · intro key hOther
      rw [DiagnosticCollection.entries_record diagnostics ⟨e.document.path, result⟩ key]
      exact if_neg fun hTouched => hOther hTouched.symm
    · rw [run_eq, ← comp_map]
      rfl

end

/-- A compile with output disabled, or one that fails in the imported file `/w/_p.scss`. -/
def scripted (path : Path) (disabled : Bool) : Execution Id where
  compiler :=
    { stages := []
      renderer := RenderScript.renderer
        { failure := some (.render "undefined" (some 2) (some 9) (some "_p.scss")) }
      writer := { write := fun _ _ => pure () } }
  store _ := some { options := { outputPath := if disabled then some .disabled else none } }
  progress := .silent
  document := ⟨path, ""⟩

section

attribute [local instance] WorkingDirectory.root

theorem runAll_diagnostics_of_import :
    LawfulMonad Id ∧ ∃ out : List Attempt × DiagnosticCollection,
      runAll [scripted ⟨"/w/a.scss"⟩ false, scripted ⟨"/w/a.scss"⟩ true] .empty = out ∧
      out.1.map Attempt.document = [⟨"/w/a.scss"⟩, ⟨"/w/a.scss"⟩] ∧
      out.2.Reflects out.1 ∧ out.2.Orderly ∧ (out.2.get ⟨"/w/./_p.scss"⟩).length = 1 := by
  obtain ⟨run, hRun⟩ :=
    (runAll_diagnostics [scripted ⟨"/w/a.scss"⟩ false, scripted ⟨"/w/a.scss"⟩ true]).1
  obtain ⟨hDocuments, hReflects, hOrderly⟩ := run.property
  have hKept : ((runAll [scripted ⟨"/w/a.scss"⟩ false, scripted ⟨"/w/a.scss"⟩ true]
      .empty).2.get ⟨"/w/./_p.scss"⟩).length = 1 := by
    decide +kernel
  rw [hRun] at hKept
  exact ⟨inferInstance, run.val, hRun, hDocuments, hReflects, hOrderly, hKept⟩

end

end Execution

end StylesheetBuild
