import StylesheetBuild.Proofs.Compile.Executions
import StylesheetBuild.Proofs.Compile.Trace

/-!
# Independent executions

Executions by one compiler meet in two places: the entry of the diagnostics that an outcome decides,
and the files that are written. An execution reads neither, so one after another they come to what
each of them comes to alone, and the order of two that meet nowhere makes no difference.
-/

namespace StylesheetBuild

namespace Call

/-- The file and the text of a write that was not refused. -/
def written? : Call → Option (Path × String)
  | write ⟨path, content, .ok ()⟩ => some (path, content)
  | _ => none

def written (calls : List Call) : List (Path × String) :=
  calls.filterMap written?

def lastWritten? (calls : List Call) (path : Path) : Option String :=
  ((written calls).filter fun w => w.1.same path).getLast?.map Prod.snd

/-- No file is written by both. -/
def Apart (calls others : List Call) : Prop :=
  ∀ w ∈ written calls, ∀ w' ∈ written others, w.1.same w'.1 = false

instance (calls others : List Call) : Decidable (Apart calls others) :=
  inferInstanceAs (Decidable (∀ w ∈ written calls, ∀ w' ∈ written others, w.1.same w'.1 = false))

theorem lastWritten?_append (calls more : List Call) (path : Path) :
    lastWritten? (calls ++ more) path = (lastWritten? more path).or (lastWritten? calls path) := by
  simp only [lastWritten?, written, List.filterMap_append, List.filter_append, List.getLast?_append]
  cases ((more.filterMap written?).filter fun w => w.1.same path).getLast? <;> rfl

theorem exists_mem_written {calls : List Call} {path : Path} {content : String}
    (h : lastWritten? calls path = some content) : ∃ w ∈ written calls, w.1.same path = true := by
  obtain ⟨w, hLast, -⟩ := Option.map_eq_some_iff.mp h
  exact ⟨w, List.mem_filter.mp (List.mem_of_getLast? hLast)⟩

theorem Apart.lastWritten?_comm {calls others : List Call} (h : Apart calls others)
    (before : List Call) (path : Path) :
    lastWritten? (before ++ calls ++ others) path = lastWritten? (before ++ others ++ calls) path := by
  simp only [lastWritten?_append]
  cases hCalls : lastWritten? calls path with
  | none => simp
  | some content =>
    cases hOthers : lastWritten? others path with
    | none => simp
    | some content' =>
      obtain ⟨w, hWritten, hPath⟩ := exists_mem_written hCalls
      obtain ⟨w', hWritten', hPath'⟩ := exists_mem_written hOthers
      have hSame : w.1.same w'.1 = true := by
        rw [Path.same, beq_iff_eq] at hPath hPath' ⊢
        exact hPath.trans hPath'.symm
      rw [h w hWritten w' hWritten'] at hSame
      cases hSame

end Call

theorem Progress.recorded_started {m : Type → Type} [Monad m] (progress : Progress m)
    (label : String) : progress.recorded.started label = StateT.lift (progress.started label) := rfl

namespace Compiler

section

variable {m : Type → Type} [Monad m]

theorem report_recorded (progress : Progress m) (result : Except Diagnostic CompileReport) :
    report progress.recorded result = StateT.lift (report progress result) := by
  cases result <;> rfl

variable [WorkingDirectory]

def executeBoth (c : Compiler m) (store : SettingsStore m) (progress : Progress m)
    (first second : Document) (diagnostics : DiagnosticCollection) :
    m ((CommandOutcome × CommandOutcome) × DiagnosticCollection) := do
  let (outcome, diagnostics) ← c.execute store progress first diagnostics
  let (outcome', diagnostics) ← c.execute store progress second diagnostics
  pure ((outcome, outcome'), diagnostics)

variable (c : Compiler m) (store : SettingsStore m) (progress : Progress m)

def recordedBoth (first second : Document) (diagnostics : DiagnosticCollection) :
    Recording m ((CommandOutcome × CommandOutcome) × DiagnosticCollection) :=
  c.recorded.executeBoth store.recorded progress.recorded first second diagnostics

variable [LawfulMonad m]

/-- An execution goes by neither the calls nor the diagnostics before it. -/
theorem execute_recorded_eq (document : Document) (diagnostics : DiagnosticCollection)
    (before : List Call) :
    (c.recorded.execute store.recorded progress.recorded document diagnostics).run before =
      (fun out => ((out.1.1, diagnostics.record document.path out.1.1.result), before ++ out.2)) <$>
        c.recordedExecute store.recorded progress document .empty := by
  choose run hPlain hRecorded using c.traced_compileResolved progress
  simp [recordedExecute, execute, SettingsStore.recorded, Progress.recorded_started, report_recorded,
    hRecorded]

theorem execute_eq_recorded (document : Document) (diagnostics : DiagnosticCollection)
    (before : List Call) :
    c.execute store progress document diagnostics =
      Prod.fst <$>
        (c.recorded.execute store.recorded progress.recorded document diagnostics).run before := by
  choose run hPlain hRecorded using c.traced_compileResolved progress
  simp [execute, SettingsStore.recorded, Progress.recorded_started, report_recorded, hRecorded,
    hPlain]

theorem executeBoth_eq_recorded (first second : Document) (diagnostics : DiagnosticCollection)
    (before : List Call) :
    c.executeBoth store progress first second diagnostics =
      Prod.fst <$> (c.recordedBoth store progress first second diagnostics).run before := by
  have hSecond (d : DiagnosticCollection) (calls : List Call) :=
    c.execute_eq_recorded store progress second d calls
  rw [executeBoth, c.execute_eq_recorded store progress first diagnostics before]
  simp only [recordedBoth, executeBoth, StateT.run_bind, bind_map_left, map_bind]
  congr
  funext out
  rw [hSecond out.1.2 out.2]
  simp

end

/-- Two runs over the same documents, one the other way round, that leave the same behind. -/
structure EndsAlike
    (run turned : ((CommandOutcome × CommandOutcome) × DiagnosticCollection) × List Call) : Prop where
  outcomes : run.1.1 = turned.1.1.swap
  diagnostics : run.1.2 = turned.1.2
  contents : ∀ path, Call.lastWritten? run.2 path = Call.lastWritten? turned.2 path

section

variable [WorkingDirectory] (c : Compiler Id) (store : SettingsStore Id) (progress : Progress Id)

/-- What a document comes to and the calls that are made for it. -/
def alone (document : Document) : CommandOutcome × List Call :=
  let out := c.recordedExecute store.recorded progress document .empty
  (out.1.1, out.2)

def attempt (document : Document) : Attempt :=
  ⟨document.path, (c.alone store progress document).1.result⟩

/-- The outcomes decide the diagnostics of different files, and no file is written for both. -/
structure Independent (first second : Document) : Prop where
  entries : (c.attempt store progress first).touched.key ≠
    (c.attempt store progress second).touched.key
  files : Call.Apart (c.alone store progress first).2 (c.alone store progress second).2

theorem recordedBoth_eq (first second : Document) (diagnostics : DiagnosticCollection)
    (before : List Call) :
    (c.recordedBoth store progress first second diagnostics).run before =
      ((((c.alone store progress first).1, (c.alone store progress second).1),
        diagnostics.recordAll [c.attempt store progress first, c.attempt store progress second]),
        before ++ (c.alone store progress first).2 ++ (c.alone store progress second).2) := by
  have hAlone (document : Document) (d : DiagnosticCollection) (calls : List Call) :
      (c.recorded.execute store.recorded progress.recorded document d).run calls =
        (((c.alone store progress document).1,
          d.record document.path (c.alone store progress document).1.result),
          calls ++ (c.alone store progress document).2) := by
    rw [c.execute_recorded_eq store progress document d calls]
    rfl
  simp only [recordedBoth, executeBoth, StateT.run_bind, hAlone]
  rfl

theorem executeBoth_comm {first second : Document} (h : c.Independent store progress first second)
    (diagnostics : DiagnosticCollection) (before : List Call) :
    let run := (c.recordedBoth store progress first second diagnostics).run before
    let turned := (c.recordedBoth store progress second first diagnostics).run before
    run.1 = c.executeBoth store progress first second diagnostics ∧
      turned.1 = c.executeBoth store progress second first diagnostics ∧ EndsAlike run turned := by
  intro run turned
  refine ⟨(c.executeBoth_eq_recorded store progress first second diagnostics before).symm,
    (c.executeBoth_eq_recorded store progress second first diagnostics before).symm, ?_⟩
  simp only [run, turned, c.recordedBoth_eq]
  constructor
  case outcomes => rfl
  case diagnostics => rw [diagnostics.recordAll_swap h.entries]
  case contents => exact h.files.lastWritten?_comm before

end

/-- A compiler that writes stylesheets with maps and fails in `_p.scss` where a text has imports. -/
def withoutImports : Compiler Id where
  stages := []
  renderer := RenderScript.renderer
    { needle := some "@import", filename := some "_p.scss", map := some "map" }
  writer := { write := fun _ _ => pure () }

def withMaps : SettingsStore Id :=
  fun _ => some { options := { sourceMap := some (.flag true) } }

section

attribute [local instance] WorkingDirectory.root

theorem executeBoth_comm_of_import :
    let importing : Document := ⟨⟨"/w/a.less"⟩, "@import"⟩
    let plain : Document := ⟨⟨"/w/b.less"⟩, "b"⟩
    let diagnostics := DiagnosticCollection.empty.recordFailure ⟨"old", .firstLine, plain.path⟩
    let run := (withoutImports.recordedBoth withMaps .silent importing plain diagnostics).run []
    let turned := (withoutImports.recordedBoth withMaps .silent plain importing diagnostics).run []
    withoutImports.Independent withMaps .silent importing plain ∧ EndsAlike run turned ∧
      turned.1.2.get plain.path = [] ∧ (turned.1.2.get ⟨"/w/_p.scss"⟩).length = 1 ∧
      Call.written turned.2 = [(⟨"/w/b.css"⟩, "b"), (⟨"/w/b.css.map"⟩, "map")] := by
  intro importing plain diagnostics run turned
  have hIndependent : withoutImports.Independent withMaps .silent importing plain := by
    constructor
    case entries => decide +kernel
    case files => decide +kernel
  obtain ⟨-, -, hAlike⟩ := executeBoth_comm _ _ _ hIndependent diagnostics []
  refine ⟨hIndependent, hAlike, ?_, ?_, ?_⟩ <;> decide +kernel

end

end Compiler

end StylesheetBuild
