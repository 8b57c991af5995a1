import StylesheetBuild.Proofs.Compile.Trace
import StylesheetBuild.Proofs.Files.Snapshot
import StylesheetBuild.Proofs.Path.Folding
import StylesheetBuild.Scss.Renderer
import StylesheetBuild.Scss.Subset

/-!
# Entering the root document

Without stages the bundled renderer has its engine load the root document from its path, after
stages it hands over the text. Both ways lead to the same start, of an engine that reads the file it
is to load: the path is a spelling of the source path, and at that path stands the text in memory,
whatever the disk holds.
-/

namespace StylesheetBuild

open StylesheetBuild.Path

theorem RootFileInfo.key_path_ofPath {p : Path} {name : String} (hAbsolute : p.isAbsolute = true)
    (hName : p.fileName? = some name) : (RootFileInfo.ofPath p).path.key = p.key := by
  have hDirectory := isAbsolute_directory hAbsolute hName
  have hOwn := isName_of_mem_steps (name_mem_steps hName)
  have hPath : (RootFileInfo.ofPath p).path = p.directory.joinText name := by
    rw [path, ofPath, hName]
    rfl
  rw [hPath, key, key, components_eq_concat hName,
    components_eq_of_isAbsolute (isAbsolute_joinText hDirectory name), steps_joinText hOwn,
    components_eq_of_isAbsolute hDirectory, List.cons_append]

theorem RootFileInfo.isAbsolute_path_ofPath {p : Path} {name : String}
    (hAbsolute : p.isAbsolute = true) (hName : p.fileName? = some name) :
    (RootFileInfo.ofPath p).path.isAbsolute = true := by
  rw [isAbsolute_iff, ← key, key_path_ofPath hAbsolute hName, key, ← isAbsolute_iff]
  exact hAbsolute

/-- The only documents in memory are those of the compile itself. -/
theorem ResolvedRequest.documents?_rendererOptions [WorkingDirectory] (r : ResolvedRequest)
    (changed : Bool) (content : String) :
    (r.rendererOptions changed content).documents? = some (.forRoot r.source content) := by
  cases hVendor : r.options.autoprefixer.filter Autoprefixer.isEnabled <;>
    simp [rendererOptions, RendererOptions.documents?, plugins, hVendor]

namespace Scss

variable {m : Type → Type} [Monad m]

/-- An engine that compiles a file by reading it through the files that it is given, and goes on
with the text. -/
structure Engine.LoadsByReading (e : Engine m)
    (load : EngineOptions m → Path → String → ExceptT Failure m String) : Prop where
  compileFile_eq : ∀ o p, ∃ refuse : ByteArray → Failure, e.compileFile o p = do
    let bytes ← ExceptT.adapt Failure.unreadable (o.files.read p)
    match String.fromUTF8? bytes with
    | some text => load o p text
    | none => throw (refuse bytes)

/-- How an engine comes by the root document. -/
inductive RootEntry where
  | loaded (p : Path)
  | given

namespace RootEntry

def isLoaded : RootEntry → Bool
  | loaded _ => true
  | given => false

/-- What the engine calls the root document. -/
def name : RootEntry → String
  | loaded p => p.text
  | given => unnamedSource

/-- What the engine makes of the root document once it has its text. -/
def run (e : Engine m) (load : EngineOptions m → Path → String → ExceptT Failure m String)
    (o : EngineOptions m) (text : String) : RootEntry → ExceptT Failure m String
  | loaded p => load o p text
  | given => e.compileText o text

end RootEntry

/-- The bundled renderer begins with `text` as the root document at `source`: the engine goes on
with that text, finds it in memory, looks for imports in the directory of the source, and what is
wrong with the text is attributed to the source. -/
structure StartsFrom (e : Engine m)
    (load : EngineOptions m → Path → String → ExceptT Failure m String) (fs : FileSystem m)
    (content : String) (o : RendererOptions) (text : String) (source : Path) (entry : RootEntry) :
    Prop where
  runs : (renderer e fs).render content o =
    answer (rootDocument? o) (entry.run e load (engineOptions fs o) text)
  sees : (engineOptions fs o).files = sourceFiles fs (some (.forRoot source text))
  loads : (engineOptions fs o).loadPaths.map key = [source.directory.key]
  roots : (rootDocument? o).map key = some source.key
  blames : ∀ refusal : Refusal, ∃ name,
    Failure.toCompileError (rootDocument? o) (.refused refusal entry.name) =
      .render refusal.message (some (refusal.position.line + 1)) (some refusal.position.column)
        (some name) ∧
    (⟨name⟩ : Path).key = source.key

section

variable [LawfulMonad m] {e : Engine m}
  {load : EngineOptions m → Path → String → ExceptT Failure m String}

/-- A document in memory is what is read at its path. -/
theorem Engine.LoadsByReading.compileFile_of_document (hReads : e.LoadsByReading load)
    {fs : FileSystem m} {o : RendererOptions} {p : Path} {text : String}
    (h : (Overlay.mk o.documents? fs).document? p = some text) :
    e.compileFile (engineOptions fs o) p = load (engineOptions fs o) p text := by
  obtain ⟨refuse, hLoads⟩ := hReads.compileFile_eq (engineOptions fs o) p
  have hRead : (engineOptions fs o).files.read p = pure text.toUTF8 := by
    change (Overlay.mk o.documents? fs).read p = _
    rw [Overlay.read, h]
  have hAdapted :
      ExceptT.adapt Failure.unreadable (pure text.toUTF8 : ExceptT IoError m ByteArray) =
        pure text.toUTF8 := by
    apply ExceptT.ext
    exact map_pure (Except.mapError Failure.unreadable) _
  rw [hLoads, hRead, hAdapted, pure_bind]
  simp only [fromUTF8?_toUTF8]

end

theorem blames_unnamed (root : Path) (refusal : Refusal) :
    Failure.toCompileError (some root) (.refused refusal unnamedSource) =
      .render refusal.message (some (refusal.position.line + 1)) (some refusal.position.column)
        (some root.text) := by
  simp [Failure.toCompileError]

theorem blames_named (root : Option Path) {p : Path} (hAbsolute : p.isAbsolute = true)
    (refusal : Refusal) :
    Failure.toCompileError root (.refused refusal p.text) =
      .render refusal.message (some (refusal.position.line + 1)) (some refusal.position.column)
        (some p.text) := by
  have hNamed : p.text ≠ unnamedSource := by
    intro hText
    have hRelative : (⟨unnamedSource⟩ : Path).isAbsolute = false := by decide +kernel
    rw [← hText, hAbsolute] at hRelative
    cases hRelative
  simp [Failure.toCompileError, hNamed]

theorem files_engineOptions [WorkingDirectory] (r : ResolvedRequest) (changed : Bool)
    (fs : FileSystem m) (content : String) :
    (engineOptions fs (r.rendererOptions changed content)).files =
      sourceFiles fs (some (.forRoot r.source content)) := by
  rw [engineOptions, r.documents?_rendererOptions]

section

variable [WorkingDirectory] {e : Engine m}
  {load : EngineOptions m → Path → String → ExceptT Failure m String} {r : ResolvedRequest}
  {name : String} (hName : r.source.fileName? = some name) (fs : FileSystem m) (content : String)
include hName

/-- Given the text, the renderer knows the root document from the documents in memory. -/
theorem startsFrom_text :
    StartsFrom e load fs content (r.rendererOptions true content) content r.source .given := by
  have hRootPath : rootDocument? (r.rendererOptions true content) = some r.source := by
    rw [rootDocument?, r.documents?_rendererOptions]
    rfl
  constructor
  case runs => rfl
  case sees => exact files_engineOptions r true fs content
  case loads =>
    have hLoadPath : loadPath? (r.rendererOptions true content) = r.source.parent? := by
      rw [loadPath?, r.documents?_rendererOptions]
      rfl
    rw [engineOptions, hLoadPath, parent?_eq_directory hName]
    rfl
  case roots => rw [hRootPath, Option.map_some]
  case blames =>
    intro refusal
    rw [hRootPath]
    exact ⟨r.source.text, blames_unnamed r.source refusal, rfl⟩

/-- Told to load the root document, the engine finds the text in memory. -/
theorem startsFrom_path [LawfulMonad m] (hReads : e.LoadsByReading load)
    (hAbsolute : r.source.isAbsolute = true)
    (hRoot : r.options.rootFileInfo = some (.ofPath r.source)) :
    StartsFrom e load fs content (r.rendererOptions false content) content r.source
      (.loaded (RootFileInfo.ofPath r.source).path) := by
  have hKey := RootFileInfo.key_path_ofPath hAbsolute hName
  have hInfo : (r.rendererOptions false content).rootFileInfo = some (.ofPath r.source) := hRoot
  have hDocument : (Overlay.mk (r.rendererOptions false content).documents? fs).document?
      (RootFileInfo.ofPath r.source).path = some content := by
    rw [Overlay.document?, r.documents?_rendererOptions, Option.bind_some, DocumentSet.get?_forRoot,
      if_pos hKey.symm]
  have hRootPath : rootDocument? (r.rendererOptions false content) =
      some (RootFileInfo.ofPath r.source).path := by
    rw [rootDocument?, hInfo]
    rfl
  constructor
  case runs =>
    have hRun := hReads.compileFile_of_document hDocument
    change answer _ (renderText e fs content _) = _
    rw [renderText, hInfo]
    exact congrArg (answer _) hRun
  case sees => exact files_engineOptions r false fs content
  case loads =>
    rw [engineOptions, loadPath?, hInfo]
    rfl
  case roots => rw [hRootPath, Option.map_some, hKey]
  case blames =>
    intro refusal
    have hPath := RootFileInfo.isAbsolute_path_ofPath hAbsolute hName
    exact ⟨_, blames_named _ hPath refusal, hKey⟩

end

/-- The engine for a part of SCSS goes on with the text of a file as a root of that name. -/
theorem loadsByReading_subset [LawfulMonad m] :
    (subset : Engine m).LoadsByReading fun o p text =>
      compileSource o ⟨p.text, text, .ofPath p⟩ where
  compileFile_eq o p := by
    refine ⟨refuseBytes, ?_⟩
    change compilePath o p = _
    rw [compilePath, readSource, bind_assoc]
    congr 1
    funext bytes
    cases String.fromUTF8? bytes with
    | some text => exact pure_bind _ _
    | none => exact ExceptT.ext (by simp)

end Scss

variable {m : Type → Type} [Monad m]

/-- Whatever else the stage does, it answers with the text that it is given. -/
def Stage.KeepsText (stage : Stage m) : Prop :=
  ∀ content context, ∃ next : m StageContext,
    stage.process content context = ExceptT.lift ((content, ·) <$> next)

variable [LawfulMonad m]

theorem Stage.traced_runFrom_of_keepsText (stages : List (Stage m))
    (hKeeps : ∀ stage ∈ stages, stage.KeepsText) (first : Nat) (content : String)
    (context : StageContext) :
    Traced (runFrom stages content context) (runFrom (recordedFrom first stages) content context)
      fun calls result => result = .ok content ∧ ∃ own : List StageCall, calls = own.map .stage := by
  induction stages generalizing first context with
  | nil => exact .of_pure content ⟨rfl, [], rfl⟩
  | cons stage stages ih =>
    obtain ⟨next, hNext⟩ := hKeeps stage (by simp) content context
    let answers : m {answer : Except CompileError (String × StageContext) //
        ∃ context, answer = .ok (content, context)} :=
      (fun context => ⟨.ok (content, context), context, rfl⟩) <$> next
    have hAnswers : (stage.process content context).run = Subtype.val <$> answers := by
      rw [hNext]
      simp [answers]
    -- Such a stage never fails, and its answer leaves open nothing but the context.
    apply Traced.bind (.of_record_of_run _ answers hAnswers)
    · rintro calls e ⟨-, context', hAnswer⟩
      cases hAnswer
    · rintro calls ⟨content', context'⟩ ⟨rfl, _, hAnswer⟩
      cases hAnswer
      apply (ih (fun stage hStage => hKeeps stage (by simp [hStage])) (first + 1) context').imp
      rintro more result ⟨rfl, own, rfl⟩
      exact ⟨rfl, ⟨first, content, context, .ok (content, context')⟩ :: own, rfl⟩

namespace Compiler

variable {c : Compiler m} (hKeeps : ∀ stage ∈ c.stages, stage.KeepsText)
include hKeeps

theorem traced_preprocess_of_keepsText (progress : Progress m) (content : String) :
    Traced (c.preprocess progress content) (c.recorded.preprocess progress.recorded content)
      fun calls result => result = .ok content ∧ ∃ own : List StageCall, calls = own.map .stage := by
  have hRun := Stage.traced_runFrom_of_keepsText c.stages hKeeps 0 content ∅
  unfold preprocess
  cases hStages : c.stages with
  | nil =>
    simp only [recorded, hStages]
    exact .of_pure content ⟨rfl, [], rfl⟩
  | cons stage stages =>
    rw [hStages] at hRun
    simp only [recorded, hStages]
    exact .after_lift _ fun _ => hRun

/-- Apart from those to stages and to the writer there is one call, the renderer's. -/
def RendersOnce (content : String) (options : RendererOptions) (calls : List Call) : Prop :=
  ∃ (stages : List StageCall) (answer : Except CompileError RenderOutput) (writes : List WriteCall),
    calls = stages.map .stage ++ .render ⟨content, options, answer⟩ :: writes.map .write

theorem traced_compileResolved_of_keepsText [WorkingDirectory] (progress : Progress m)
    (r : ResolvedRequest) :
    Traced (c.compileResolved progress r) (c.recorded.compileResolved progress.recorded r)
      fun calls _ => if r.options.isOutputDisabled then calls = [] else
        RendersOnce r.content (r.rendererOptions (!c.stages.isEmpty) r.content) calls := by
  unfold compileResolved
  cases hOff : r.options.isOutputDisabled with
  | true => exact .of_pure _ rfl
  | false =>
    simp only [Bool.false_eq_true, if_false, c.recorded_isEmpty]
    apply (traced_preprocess_of_keepsText hKeeps progress r.content).bind
    · rintro calls e ⟨hResult, -⟩
      cases hResult
    rintro calls content ⟨hResult, own, rfl⟩
    cases hResult
    refine .after_lift _ fun _ => ?_
    apply Traced.bind (.of_record _ (c.renderer.render r.content _))
    · rintro _ e rfl
      exact ⟨own, .error e, [], rfl⟩
    rintro _ output rfl
    refine .after_lift _ fun _ => ?_
    apply (c.traced_writes r output).imp
    rintro _ final ⟨writes, rfl, -⟩
    exact ⟨own, .ok output, writes, by simp⟩

omit hKeeps

/-- The renderer is called once, as the flag says with or without the way to load the root document,
and either way starts from the text of the request as the document at its source. -/
def EntersRoot (e : Scss.Engine m)
    (load : Scss.EngineOptions m → Path → String → ExceptT Scss.Failure m String)
    (fs : FileSystem m) (r : ResolvedRequest) (loads : Bool) (calls : List Call) : Prop :=
  ∃ options : RendererOptions, RendersOnce r.content options calls ∧
    options.rootFileInfo.isSome = loads ∧
    ∃ entry : Scss.RootEntry, entry.isLoaded = loads ∧
      Scss.StartsFrom e load fs r.content options r.content r.source entry

section

variable [WorkingDirectory] {e : Scss.Engine m}
  {load : Scss.EngineOptions m → Path → String → ExceptT Scss.Failure m String}

/-- Over an engine that reads what it loads, the bundled renderer enters the root document in the
same way whether there are no stages or some that keep the text. -/
theorem compile_entersRoot (hReads : e.LoadsByReading load) (fs : FileSystem m)
    (writer : ArtifactWriter m) {stages : List (Stage m)}
    (hKeeps : ∀ stage ∈ stages, stage.KeepsText) (progress : Progress m) {r : ResolvedRequest}
    {name : String} (hAbsolute : r.source.isAbsolute = true)
    (hName : r.source.fileName? = some name)
    (hRoot : r.options.rootFileInfo = some (.ofPath r.source)) :
    let c : Compiler m := ⟨stages, Scss.renderer e fs, writer⟩
    ∃ run : m {out : Except CompileError CompileReport × List Call //
        if r.options.isOutputDisabled then out.2 = [] else
          EntersRoot e load fs r stages.isEmpty out.2},
      (c.compileResolved progress r).run = (fun out => out.1.1) <$> run ∧
      c.recordedCompile progress r = Subtype.val <$> run := by
  intro c
  have hStarts : (r.rendererOptions (!stages.isEmpty) r.content).rootFileInfo.isSome =
        stages.isEmpty ∧
      ∃ entry : Scss.RootEntry, entry.isLoaded = stages.isEmpty ∧
        Scss.StartsFrom e load fs r.content (r.rendererOptions (!stages.isEmpty) r.content)
          r.content r.source entry := by
    cases stages.isEmpty with
    | true =>
      refine ⟨?_, _, rfl, Scss.startsFrom_path hName fs r.content hReads hAbsolute hRoot⟩
      simp [ResolvedRequest.rendererOptions, hRoot]
    | false => exact ⟨rfl, _, rfl, Scss.startsFrom_text hName fs r.content⟩
  obtain ⟨run, hPlain, hRecorded⟩ := traced_compileResolved_of_keepsText (c := c) hKeeps progress r
  have hEnters : ∀ calls : List Call, (if r.options.isOutputDisabled then calls = [] else
      RendersOnce r.content (r.rendererOptions (!stages.isEmpty) r.content) calls) →
      if r.options.isOutputDisabled then calls = [] else
        EntersRoot e load fs r stages.isEmpty calls := by
    intro calls hCalls
    split
    · rwa [if_pos ‹_›] at hCalls
    · rw [if_neg ‹_›] at hCalls
      exact ⟨_, hCalls, hStarts⟩
  refine ⟨(fun out => ⟨(out.1.2, out.1.1), hEnters out.1.1 out.2⟩) <$> run, ?_, ?_⟩
  · rw [hPlain, ← comp_map]
    rfl
  · rw [recordedCompile, hRecorded [], ← comp_map]
    rfl

end

section

attribute [local instance] WorkingDirectory.root

def noFiles : FileSystem Id :=
  FileTree.empty.snapshot []

/-- A compile by the bundled renderer, on a disk without any files. -/
def bundled (stages : List (Stage Id)) : Compiler Id :=
  ⟨stages, Scss.renderer Scss.subset noFiles, ⟨fun _ _ => pure ()⟩⟩

def sameText : Stage Id :=
  .ofFunction "same" fun content context => .ok (content, context)

def climbingRequest : ResolvedRequest :=
  let source : Path := ⟨"/proj//less/../less/./main.scss"⟩
  ⟨source, "$c: red;\n.a \x7b b: $c; \x7d", { rootFileInfo := some (.ofPath source) }, none⟩

theorem compile_entersRoot_both_ways :
    let e : Scss.Engine Id := Scss.subset
    let load := fun (o : Scss.EngineOptions Id) (p : Path) (text : String) =>
      Scss.compileSource o ⟨p.text, text, .ofPath p⟩
    e.LoadsByReading load ∧ sameText.KeepsText ∧ climbingRequest.source.isAbsolute = true ∧
      climbingRequest.source.fileName? = some "main.scss" ∧
      EntersRoot e load noFiles climbingRequest true
        ((bundled []).recordedCompile .silent climbingRequest).2 ∧
      EntersRoot e load noFiles climbingRequest false
        ((bundled [sameText]).recordedCompile .silent climbingRequest).2 ∧
      (((bundled []).recordedCompile .silent climbingRequest).1.isOk) = true := by
  intro e load
  have hReads : e.LoadsByReading load := Scss.loadsByReading_subset
  have hKeeps : sameText.KeepsText := fun _ context => ⟨pure context, rfl⟩
  have hNone : ∀ stage ∈ ([] : List (Stage Id)), stage.KeepsText := by simp
  have hOne : ∀ stage ∈ [sameText], stage.KeepsText := by simpa using hKeeps
  have hAbsolute : climbingRequest.source.isAbsolute = true := by decide +kernel
  have hName : climbingRequest.source.fileName? = some "main.scss" := by decide +kernel
  have hOn : ¬climbingRequest.options.isOutputDisabled = true := by decide +kernel
  obtain ⟨loading, -, hLoading⟩ := compile_entersRoot hReads noFiles ⟨fun _ _ => pure ()⟩
    hNone .silent hAbsolute hName rfl
  obtain ⟨given, -, hGiven⟩ := compile_entersRoot hReads noFiles ⟨fun _ _ => pure ()⟩
    hOne .silent hAbsolute hName rfl
  have hLoads := loading.property
  have hGives := given.property
  rw [if_neg hOn] at hLoads hGives
  have hSuccess : ((bundled []).recordedCompile .silent climbingRequest).1.isOk = true := by
    decide +kernel
  refine ⟨hReads, hKeeps, hAbsolute, hName, ?_, ?_, hSuccess⟩
  · change EntersRoot e load noFiles climbingRequest true
      ((Compiler.mk [] (Scss.renderer e noFiles) _).recordedCompile .silent climbingRequest).2
    rw [hLoading]
    exact hLoads
  · change EntersRoot e load noFiles climbingRequest false
      ((Compiler.mk [sameText] (Scss.renderer e noFiles) _).recordedCompile .silent
        climbingRequest).2
    rw [hGiven]
    exact hGives

end

end Compiler

end StylesheetBuild
