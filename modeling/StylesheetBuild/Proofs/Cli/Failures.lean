import StylesheetBuild.Cli.Compile
import StylesheetBuild.Files.Tree
import StylesheetBuild.Proofs.Diagnostic.Attempts
import StylesheetBuild.Scss.Subset
import StylesheetBuild.Toml.Reader

/-!
# Failures of the compile command

The command is split into the attempts that it makes, which print everything but diagnostics and
take no notice of one another's outcome, and what it says about them at the end. A failure is
counted for good, but its diagnostic goes with the next success of the file that it affects, so a
command may fail without a line about it.
-/

namespace StylesheetBuild.Cli

section

variable {m : Type → Type} [Monad m] [WorkingDirectory]

/-- Compiles one document and prints what is printed about it at once. -/
def attemptDocument (h : Host m) (c : Compiler m) (document : Document) : m Attempt := do
  let elapsed ← h.stopwatch
  let (outcome, _) ← c.execute h.settings .silent document .empty
  let elapsed ← elapsed
  outcome.warnings.forM fun w => h.noteLine (warningLine document.path w)
  match outcome.result with
  | .ok r => printReport h elapsed r
  | .error _ => pure ()
  pure ⟨document.path, outcome.result⟩

def attemptFile (h : Host m) (c : Compiler m) (file : Path) : m Attempt := do
  match ← (h.files.readText file).run with
  | .error e => pure ⟨file, .error (.ofError (.filesystem file e) file)⟩
  | .ok content => attemptDocument h c ⟨file, content⟩

/-- The attempts at the files of the command, without those that are skipped. Only a file without an
absolute form ends them early. -/
def attemptFiles (h : Host m) (c : Compiler m) (a : CompileArguments) :
    List Path → ExceptT CommandError m (List Attempt)
  | [] => pure []
  | file :: files =>
    if a.accepts file then
      match file.toAbsolute with
      | .error e => throw (.unresolvable file e)
      | .ok p => do
        let attempt ← ExceptT.lift (attemptFile h c p)
        let attempts ← attemptFiles h c a files
        pure (attempt :: attempts)
    else do
      ExceptT.lift (h.noteLine (skippedLine file))
      attemptFiles h c a files

end

def failures (attempts : List Attempt) : Nat :=
  attempts.countP fun a => !a.result.isOk

def remaining (attempts : List Attempt) : List Diagnostic :=
  (DiagnosticCollection.ofAttempts attempts).toList

namespace Tally

def after (t : Tally) (a : Attempt) : Tally where
  diagnostics := t.diagnostics.record a.document a.result
  failed := if a.result.isOk then t.failed else t.failed + 1

theorem foldl_after_diagnostics (t : Tally) (attempts : List Attempt) :
    (attempts.foldl after t).diagnostics =
      attempts.foldl (fun c a => c.record a.document a.result) t.diagnostics := by
  induction attempts generalizing t with
  | nil => rfl
  | cons a attempts ih =>
    rw [List.foldl_cons, ih, List.foldl_cons]
    rfl

theorem foldl_after_failed (t : Tally) (attempts : List Attempt) :
    (attempts.foldl after t).failed = t.failed + failures attempts := by
  induction attempts generalizing t with
  | nil => rfl
  | cons a attempts ih =>
    rw [List.foldl_cons, ih, failures, failures, List.countP_cons]
    cases hOk : a.result.isOk <;> simp [after, hOk]
    omega

end Tally

section

variable {m : Type → Type} [Monad m] [LawfulMonad m]

theorem lift_map (f : α → β) (x : m α) :
    (ExceptT.lift (f <$> x) : ExceptT ε m β) = f <$> ExceptT.lift x :=
  ExceptT.ext (by simp [Except.map])

variable [WorkingDirectory]

theorem compileDocument_eq (h : Host m) (c : Compiler m) (t : Tally) (document : Document) :
    compileDocument h c t document = t.after <$> attemptDocument h c document := by
  rw [compileDocument, attemptDocument, map_bind]
  refine bind_congr fun elapsed => ?_
  rw [Compiler.execute_eq, bind_map_left, map_bind]
  refine bind_congr fun out => ?_
  cases hResult : out.1.result <;>
    simp [hResult, Tally.after, Tally.afterCompile, CommandOutcome.isSuccess]

theorem compileFile_eq (h : Host m) (c : Compiler m) (t : Tally) (file : Path) :
    compileFile h c t file = t.after <$> attemptFile h c file := by
  rw [compileFile, attemptFile, map_bind]
  congr
  funext read
  cases read with
  | error e =>
    rw [map_pure]
    rfl
  | ok content => exact compileDocument_eq h c t ⟨file, content⟩

theorem foldlM_visitFile (h : Host m) (c : Compiler m) (a : CompileArguments) (files : List Path)
    (t : Tally) :
    files.foldlM (visitFile h c a) t = (List.foldl Tally.after t) <$> attemptFiles h c a files := by
  induction files generalizing t with
  | nil => exact ExceptT.ext (by simp [attemptFiles])
  | cons file files ih =>
    rw [List.foldlM_cons, visitFile, attemptFiles]
    cases a.accepts file with
    | false => simp only [Bool.false_eq_true, if_false, bind_assoc, pure_bind, ih, map_bind]
    | true =>
      cases file.toAbsolute with
      | error e => exact ExceptT.ext (by simp)
      | ok p =>
        simp only [if_true, compileFile_eq, lift_map, bind_map_left, ih, map_bind, bind_pure_comp,
          Functor.map_map, List.foldl_cons]

/-- What the command says at the end: the diagnostics that stand after its attempts, and how many of
these have failed. That is nothing but the number if the affected files have all succeeded since. -/
theorem compileFiles_failures (h : Host m) (a : CompileArguments) :
    compileFiles h a = (do
      let attempts ← attemptFiles h (compilerOf h a.banner) a a.files
      ExceptT.lift ((remaining attempts).forM fun d => h.noteLine d.text)
      if failures attempts > 0 then throw (.failedFiles (failures attempts) a.files.length)) ∧
    ∀ attempts : List Attempt,
      (∀ d, d ∈ remaining attempts ↔ Attempt.Standing attempts d.affectedFile d) ∧
      ((remaining attempts).Pairwise fun d e =>
        compare d.affectedFile.key e.affectedFile.key = .lt) ∧
      (remaining attempts = [] ↔ ∀ before x after d, attempts = before ++ x :: after →
        x.result = .error d → ∃ b ∈ after, b.Clears d.affectedFile) := by
  constructor
  · rw [compileFiles, foldlM_visitFile, bind_map_left]
    refine bind_congr fun attempts => ?_
    have hDiagnostics : (attempts.foldl Tally.after {}).diagnostics =
        DiagnosticCollection.ofAttempts attempts :=
      Tally.foldl_after_diagnostics {} attempts
    have hFailed : (attempts.foldl Tally.after {}).failed = failures attempts := by
      rw [Tally.foldl_after_failed, Nat.zero_add]
    rw [hDiagnostics, hFailed, remaining]
  · intro attempts
    refine ⟨?_, ?_, ?_⟩
    · exact DiagnosticCollection.mem_toList_ofAttempts_iff attempts
    · exact (DiagnosticCollection.filed_ofAttempts attempts).ordered
    · exact DiagnosticCollection.toList_ofAttempts_eq_nil_iff attempts

end

abbrev Console := StateM (FileTree × List String)

instance : MonadLift (StateM FileTree) Console where
  monadLift action := fun (tree, lines) =>
    let (a, tree) := action tree
    (a, tree, lines)

@[reducible]
def inWorkspace : WorkingDirectory :=
  .of ⟨"/ws"⟩ (by decide +kernel) (by decide +kernel)

def consoleHost : Host Console where
  files := (FileTree.fileSystem ["ws"]).lift
  home := some ⟨"/home"⟩
  engine := Scss.subset
  decode := Toml.parse?
  printLine _ := pure ()
  noteLine line := modify fun (tree, lines) => (tree, lines ++ [line])
  stopwatch := pure (pure "0")

/-- `m.scss` imports `_p.scss`, which is broken and makes no stylesheet of its own. -/
def brokenPartial : FileTree :=
  ((FileTree.empty.set ["ws"] .directory).set ["ws", "m.scss"]
    (.file "@import 'p';\n.a { b: c; }".toUTF8)).set ["ws", "_p.scss"]
    (.file "// out: false\n.p { q: $u; }".toUTF8)

def listing (files : List String) : CompileArguments where
  files := files.map Path.mk
  banner := none
  anyExtension := false

section

attribute [local instance] inWorkspace

set_option maxRecDepth 100000 in
theorem compileFiles_failures_of_partial :
    LawfulMonad Console ∧
    compileFiles consoleHost (listing ["_p.scss", "m.scss"]) = (do
      let attempts ← attemptFiles consoleHost (compilerOf consoleHost none)
        (listing ["_p.scss", "m.scss"]) [⟨"_p.scss"⟩, ⟨"m.scss"⟩]
      ExceptT.lift ((remaining attempts).forM fun d => consoleHost.noteLine d.text)
      if failures attempts > 0 then throw (.failedFiles (failures attempts) 2)) ∧
    ((compileFiles consoleHost (listing ["_p.scss", "m.scss"])).run.run (brokenPartial, [])).2.2 =
      ["/ws/_p.scss:2:9: error: Undefined variable."] := by
  refine ⟨inferInstance, ?_, by decide +kernel⟩
  exact (compileFiles_failures consoleHost (listing ["_p.scss", "m.scss"])).1

set_option maxRecDepth 100000 in
/-- Listed after the file that imports it, the partial takes the only diagnostic away. -/
theorem compileFiles_failed_without_lines :
    ¬∀ (tree : FileTree) (a : CompileArguments) (failed total : Nat),
      ((compileFiles consoleHost a).run.run (tree, [])).1 = .error (.failedFiles failed total) →
      ((compileFiles consoleHost a).run.run (tree, [])).2.2 ≠ [] := by
  intro hPrinted
  have hError : ((compileFiles consoleHost (listing ["m.scss", "_p.scss"])).run.run
      (brokenPartial, [])).1 = .error (.failedFiles 1 2) := by
    decide +kernel
  have hLines : ((compileFiles consoleHost (listing ["m.scss", "_p.scss"])).run.run
      (brokenPartial, [])).2.2 = [] := by
    decide +kernel
  exact hPrinted brokenPartial _ 1 2 hError hLines

end

end StylesheetBuild.Cli
