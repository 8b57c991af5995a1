import Mathlib.Data.List.Chain
import StylesheetBuild.Proofs.Compile.Calls
import StylesheetBuild.Renderer.Script
import StylesheetBuild.Stage.Banner

/-!
# The trace of a compile

Which calls a compile makes, in which order, with which arguments, and how they decide its result.
`CompileTrace.Conforms` lists the rules; the answers themselves are left open. That every compile
follows them is shown for the recorded compiler, whose run is at the same time the plain run.
-/

namespace StylesheetBuild

namespace StageCall

/-- The calls of `count` stages, the first of which has the number `first`: in order, each on what
the one before it has left, up to the first failure. -/
structure Chain (first count : Nat) (content : String) (context : StageContext)
    (calls : List StageCall) : Prop where
  inOrder : calls.map StageCall.index = List.range' first calls.length
  atMost : calls.length ≤ count
  start : ∀ call ∈ calls.head?, call.content = content ∧ call.context = context
  handedOn : calls.IsChain fun call next => call.answer = .ok (next.content, next.context)
  untilFailure : calls.length = count ∨ ∃ call ∈ calls.getLast?, ∃ e, call.answer = .error e

theorem Chain.nil (first : Nat) (content : String) (context : StageContext) :
    Chain first 0 content context [] where
  inOrder := rfl
  atMost := Nat.le_refl 0
  start := by simp
  handedOn := .nil
  untilFailure := .inl rfl

theorem Chain.failed (first count : Nat) (content : String) (context : StageContext)
    (e : CompileError) :
    Chain first (count + 1) content context [⟨first, content, context, .error e⟩] where
  inOrder := rfl
  atMost := by simp
  start := by simp
  handedOn := .singleton _
  untilFailure := .inr ⟨_, rfl, e, rfl⟩

theorem Chain.cons {first count : Nat} {content content' : String} {context context' : StageContext}
    {calls : List StageCall} (h : Chain (first + 1) count content' context' calls) :
    Chain first (count + 1) content context
      (⟨first, content, context, .ok (content', context')⟩ :: calls) where
  inOrder := by
    rw [List.map_cons, h.inOrder]
    rfl
  atMost := Nat.succ_le_succ h.atMost
  start := by simp
  handedOn := by
    rw [List.isChain_cons]
    refine ⟨?_, h.handedOn⟩
    intro next hNext
    obtain ⟨hContent, hContext⟩ := h.start next hNext
    rw [hContent, hContext]
  untilFailure := by
    rcases h.untilFailure with hAll | ⟨call, hCall, e, hFailed⟩
    · exact .inl (congrArg (· + 1) hAll)
    · refine .inr ⟨call, ?_, e, hFailed⟩
      rw [List.getLast?_cons, hCall]
      rfl

/-- The text that stages end with that began with `content`; nothing if one of them failed. -/
def stagedText? (content : String) : List StageCall → Option String
  | [] => some content
  | call :: calls =>
    match call.answer with
    | .error _ => none
    | .ok (content, _) => stagedText? content calls

end StageCall

structure CompileTrace where
  stages : List StageCall := []
  renders : List RenderCall := []
  writes : List WriteCall := []

namespace CompileTrace

def calls (t : CompileTrace) : List Call :=
  t.stages.map .stage ++ t.renders.map .render ++ t.writes.map .write

/-- The error of the first failing call, else a report of everything that was written. -/
def result (t : CompileTrace) : Except CompileError CompileReport :=
  match t.calls.findSome? Call.error? with
  | some e => .error e
  | none => .ok ⟨t.writes.map fun call => .ofContent call.path call.content⟩

def output? (t : CompileTrace) : Option RenderOutput :=
  t.renders.head?.bind fun call => call.answer.toOption

section

variable [WorkingDirectory]

/-- The renderer is called once, on the text that the stages leave, or not at all. -/
def Renders (hasStages : Bool) (r : ResolvedRequest) (text? : Option String)
    (renders : List RenderCall) : Prop :=
  match text? with
  | none => renders = []
  | some text => ∃ answer, renders = [⟨text, r.rendererOptions hasStages text, answer⟩]

/-- The stylesheet is written, and the map once the stylesheet is there, a map is asked for and the
renderer has produced one. -/
def Writes (r : ResolvedRequest) (output? : Option RenderOutput) (writes : List WriteCall) : Prop :=
  match output? with
  | none => writes = []
  | some output => ∃ answer further,
    writes = ⟨r.cssPath, output.css, answer⟩ :: further ∧
    match answer, r.options.sourceMapEnabled, output.map with
    | .ok (), true, some map => ∃ answer,
      further = [⟨Artifact.sourceMapPath r.cssPath, map, answer⟩]
    | _, _, _ => further = []

structure Follows (count : Nat) (r : ResolvedRequest) (t : CompileTrace) : Prop where
  stages : StageCall.Chain 0 count r.content ∅ t.stages
  renders : Renders (count != 0) r (StageCall.stagedText? r.content t.stages) t.renders
  writes : Writes r t.output? t.writes

def Conforms (count : Nat) (r : ResolvedRequest) (t : CompileTrace) : Prop :=
  if r.options.isOutputDisabled then t.calls = [] else t.Follows count r

end

end CompileTrace

variable {m : Type → Type} [Monad m] [LawfulMonad m]

/-- What running stages comes to: their calls, and either the last text or the first error. -/
structure StageCall.Outcome (first count : Nat) (content : String) (context : StageContext)
    (calls : List Call) (result : Except CompileError String) (own : List StageCall) : Prop where
  calls_eq : calls = own.map .stage
  chain : StageCall.Chain first count content context own
  text : StageCall.stagedText? content own = result.toOption
  error : calls.findSome? Call.error? = failure? result

theorem Stage.traced_runFrom (stages : List (Stage m)) (first : Nat) (content : String)
    (context : StageContext) :
    Traced (runFrom stages content context) (runFrom (recordedFrom first stages) content context)
      fun calls result =>
        ∃ own, StageCall.Outcome first stages.length content context calls result own := by
  induction stages generalizing first content context with
  | nil => exact .of_pure _ ⟨[], rfl, .nil first content context, rfl, rfl⟩
  | cons stage stages ih =>
    apply Traced.bind (.of_record _ (stage.process content context))
    · rintro calls e rfl
      exact ⟨[⟨first, content, context, .error e⟩], rfl, .failed first _ content context e, rfl, rfl⟩
    · rintro calls ⟨content', context'⟩ rfl
      apply (ih (first + 1) content' context').imp
      rintro more result ⟨own, rfl, hChain, hText, hError⟩
      refine ⟨⟨first, content, context, .ok (content', context')⟩ :: own, rfl, hChain.cons, hText, ?_⟩
      exact hError

namespace Compiler

theorem traced_preprocess (c : Compiler m) (progress : Progress m) (content : String) :
    Traced (c.preprocess progress content) (c.recorded.preprocess progress.recorded content)
      fun calls result => ∃ own, StageCall.Outcome 0 c.stages.length content ∅ calls result own := by
  have hRun := Stage.traced_runFrom c.stages 0 content ∅
  unfold preprocess
  cases hStages : c.stages with
  | nil =>
    simp only [recorded, hStages]
    exact .of_pure content ⟨[], rfl, .nil 0 content ∅, rfl, rfl⟩
  | cons stage stages =>
    rw [hStages] at hRun
    simp only [recorded, hStages]
    exact .after_lift _ fun _ => hRun

theorem traced_writeArtifact (c : Compiler m) (path : Path) (content : String) :
    Traced (c.writeArtifact path content) (c.recorded.writeArtifact path content)
      fun calls result => calls = [.write ⟨path, content, result.map fun _ => ()⟩] ∧
        ∀ a, result = .ok a → a = .ofContent path content := by
  apply Traced.bind (.of_record _ (c.writer.write path content))
  · rintro calls e rfl
    exact ⟨rfl, nofun⟩
  · rintro calls ⟨⟩ rfl
    refine .of_pure _ ⟨rfl, ?_⟩
    rintro a ⟨⟩
    rfl

end Compiler

theorem ResolvedRequest.mapArtifact?_eq [WorkingDirectory] (r : ResolvedRequest)
    (output : RenderOutput) :
    Compiler.mapArtifact? r.sourceMapSettings? output =
      if r.options.sourceMapEnabled then
        output.map.map fun map => (Artifact.sourceMapPath r.cssPath, map)
      else none := by
  cases hSetting : r.options.sourceMap with
  | none => simp [Compiler.mapArtifact?, sourceMapSettings?, Options.sourceMapEnabled, hSetting]
  | some setting =>
    cases hOn : setting.isEnabled <;> cases hMap : output.map <;>
      simp [Compiler.mapArtifact?, sourceMapSettings?, Options.sourceMapEnabled, hSetting, hOn, hMap,
        Option.filter_some, SourceMapSettings.forArtifact]

namespace CompileTrace

variable [WorkingDirectory]

theorem Conforms.options_eq {count : Nat} {r : ResolvedRequest} {t : CompileTrace}
    (h : t.Conforms count r) :
    ∀ call ∈ t.renders, call.options = r.rendererOptions (count != 0) call.content := by
  unfold Conforms at h
  split at h
  · simp only [calls, List.append_eq_nil_iff, List.map_eq_nil_iff] at h
    rw [h.1.2]
    simp
  · have hRenders := h.renders
    unfold Renders at hRenders
    split at hRenders
    · rw [hRenders]
      simp
    · obtain ⟨answer, hOne⟩ := hRenders
      rw [hOne]
      simp

def Explains (count : Nat) (r : ResolvedRequest) (calls : List Call)
    (result : Except CompileError CompileReport) : Prop :=
  ∃ t : CompileTrace, t.Conforms count r ∧ calls = t.calls ∧ result = t.result

/-- The writes of a compile and the result that they alone would give. -/
def WritePart (r : ResolvedRequest) (output : RenderOutput) (calls : List Call)
    (result : Except CompileError CompileReport) : Prop :=
  ∃ writes, calls = writes.map .write ∧ Writes r (some output) writes ∧
    result = CompileTrace.result { writes }

section

variable {r : ResolvedRequest} {count : Nat} {own : List StageCall} {calls : List Call}

theorem explains_of_disabled (h : r.options.isOutputDisabled = true) :
    Explains count r [] (.ok ⟨[]⟩) := by
  refine ⟨{}, ?_, rfl, rfl⟩
  rw [Conforms, if_pos h]
  rfl

theorem conforms_iff (h : r.options.isOutputDisabled = false) (t : CompileTrace) :
    t.Conforms count r ↔ t.Follows count r := by
  simp [Conforms, h]

theorem explains_of_stage_error {e : CompileError} (h : r.options.isOutputDisabled = false)
    (hStages : StageCall.Outcome 0 count r.content ∅ calls (.error e) own) :
    Explains count r calls (.error e) := by
  refine ⟨{ stages := own }, (conforms_iff h _).mpr ⟨hStages.chain, ?_, rfl⟩, ?_, ?_⟩
  · rw [hStages.text]
    rfl
  · simp [CompileTrace.calls, hStages.calls_eq]
  · have hError := hStages.error
    rw [hStages.calls_eq] at hError
    simp [result, CompileTrace.calls, hError, failure?]

variable {content : String}

theorem explains_of_render_error {e : CompileError} (h : r.options.isOutputDisabled = false)
    (hStages : StageCall.Outcome 0 count r.content ∅ calls (.ok content) own) :
    Explains count r
      (calls ++ [.render ⟨content, r.rendererOptions (count != 0) content, .error e⟩]) (.error e) := by
  refine ⟨⟨own, [⟨content, r.rendererOptions (count != 0) content, .error e⟩], []⟩,
    (conforms_iff h _).mpr ⟨hStages.chain, ?_, rfl⟩, ?_, ?_⟩
  · rw [hStages.text]
    exact ⟨.error e, rfl⟩
  · simp [CompileTrace.calls, hStages.calls_eq]
  · have hError := hStages.error
    rw [hStages.calls_eq] at hError
    simp [result, CompileTrace.calls, List.findSome?_append, hError, failure?, Call.error?]

theorem explains_of_writes {output : RenderOutput} {writes : List Call}
    {final : Except CompileError CompileReport} (h : r.options.isOutputDisabled = false)
    (hStages : StageCall.Outcome 0 count r.content ∅ calls (.ok content) own)
    (hWrites : WritePart r output writes final) :
    Explains count r
      (calls ++ ([.render ⟨content, r.rendererOptions (count != 0) content, .ok output⟩] ++ writes))
      final := by
  obtain ⟨written, rfl, hWritten, rfl⟩ := hWrites
  refine ⟨⟨own, [⟨content, r.rendererOptions (count != 0) content, .ok output⟩], written⟩,
    (conforms_iff h _).mpr ⟨hStages.chain, ?_, hWritten⟩, ?_, ?_⟩
  · rw [hStages.text]
    exact ⟨.ok output, rfl⟩
  · simp [CompileTrace.calls, hStages.calls_eq]
  · have hError := hStages.error
    rw [hStages.calls_eq] at hError
    simp [result, CompileTrace.calls, List.findSome?_append, List.findSome?_cons, hError, failure?,
      Call.error?]

end

end CompileTrace

namespace Compiler

section

variable [WorkingDirectory]

open CompileTrace

theorem traced_writes (c : Compiler m) (r : ResolvedRequest) (output : RenderOutput) :
    Traced
      (do
        let css ← c.writeArtifact r.cssPath output.css
        match mapArtifact? r.sourceMapSettings? output with
        | none => pure ⟨[css]⟩
        | some (path, content) => do
          let map ← c.writeArtifact path content
          pure ⟨[css, map]⟩)
      (do
        let css ← c.recorded.writeArtifact r.cssPath output.css
        match mapArtifact? r.sourceMapSettings? output with
        | none => pure ⟨[css]⟩
        | some (path, content) => do
          let map ← c.recorded.writeArtifact path content
          pure ⟨[css, map]⟩)
      (WritePart r output) := by
  rw [r.mapArtifact?_eq output]
  apply (c.traced_writeArtifact r.cssPath output.css).bind
  · rintro calls e ⟨rfl, -⟩
    exact ⟨[⟨r.cssPath, output.css, .error e⟩], rfl, ⟨.error e, [], rfl, rfl⟩, rfl⟩
  rintro calls css ⟨rfl, hMeta⟩
  obtain rfl := hMeta css rfl
  cases hOn : r.options.sourceMapEnabled with
  | false =>
    refine .of_pure _ ⟨[⟨r.cssPath, output.css, .ok ()⟩], rfl, ⟨.ok (), [], rfl, ?_⟩, rfl⟩
    simp [hOn]
  | true =>
    cases hMap : output.map with
    | none =>
      refine .of_pure _ ⟨[⟨r.cssPath, output.css, .ok ()⟩], rfl, ⟨.ok (), [], rfl, ?_⟩, rfl⟩
      simp [hMap]
    | some map =>
      have hWrites : ∀ answer, Writes r (some output)
          [⟨r.cssPath, output.css, .ok ()⟩, ⟨Artifact.sourceMapPath r.cssPath, map, answer⟩] := by
        intro answer
        refine ⟨.ok (), [⟨Artifact.sourceMapPath r.cssPath, map, answer⟩], rfl, ?_⟩
        simp [hOn, hMap]
      apply (c.traced_writeArtifact (Artifact.sourceMapPath r.cssPath) map).bind
      · rintro calls e ⟨rfl, -⟩
        exact ⟨_, rfl, hWrites (.error e), rfl⟩
      · rintro calls mapMeta ⟨rfl, hMeta⟩
        obtain rfl := hMeta mapMeta rfl
        exact .of_pure _ ⟨_, rfl, hWrites (.ok ()), rfl⟩

theorem traced_compileResolved (c : Compiler m) (progress : Progress m) (r : ResolvedRequest) :
    Traced (c.compileResolved progress r) (c.recorded.compileResolved progress.recorded r)
      (Explains c.stages.length r) := by
  unfold compileResolved
  cases hOff : r.options.isOutputDisabled with
  | true => exact .of_pure _ (explains_of_disabled hOff)
  | false =>
    simp only [Bool.false_eq_true, if_false, c.recorded_isEmpty, c.not_isEmpty]
    apply (c.traced_preprocess progress r.content).bind
    · rintro calls e ⟨own, hOwn⟩
      exact explains_of_stage_error hOff hOwn
    rintro calls content ⟨own, hOwn⟩
    refine .after_lift _ fun _ => ?_
    apply Traced.bind (.of_record _ (c.renderer.render content _))
    · rintro _ e rfl
      exact explains_of_render_error hOff hOwn
    rintro _ output rfl
    refine .after_lift _ fun _ => ?_
    apply (c.traced_writes r output).imp
    intro writes final hWrites
    exact explains_of_writes hOff hOwn hWrites

/-- What holds of all traces that conform to a request holds of those that its compile takes. -/
theorem exists_run_of_conforms (c : Compiler m) (progress : Progress m) (r : ResolvedRequest)
    {P : CompileTrace → Prop} (h : ∀ t : CompileTrace, t.Conforms c.stages.length r → P t) :
    ∃ run : m {t // P t},
      (c.compileResolved progress r).run = (fun t => t.1.result) <$> run ∧
      c.recordedCompile progress r = (fun t => (t.1.result, t.1.calls)) <$> run := by
  obtain ⟨run, hPlain, hRecorded⟩ := c.traced_compileResolved progress r
  refine ⟨(fun out => ⟨out.2.choose, h _ out.2.choose_spec.1⟩) <$> run, ?_, ?_⟩
  · rw [hPlain, ← comp_map]
    congr
    funext out
    exact out.2.choose_spec.2.2
  · rw [recordedCompile, hRecorded [], ← comp_map]
    congr
    funext out
    exact Prod.ext out.2.choose_spec.2.2 out.2.choose_spec.2.1

/-- The run of a recorded compile is the plain run, and what it records explains the result. -/
theorem compileResolved_trace (c : Compiler m) (progress : Progress m) (r : ResolvedRequest) :
    ∃ run : m {t : CompileTrace // t.Conforms c.stages.length r},
      (c.compileResolved progress r).run = (fun t => t.1.result) <$> run ∧
      c.recordedCompile progress r = (fun t => (t.1.result, t.1.calls)) <$> run := by
  obtain ⟨run, hPlain, hRecorded⟩ := c.traced_compileResolved progress r
  refine ⟨(fun out => ⟨out.2.choose, out.2.choose_spec.1⟩) <$> run, ?_, ?_⟩
  · rw [hPlain, ← comp_map]
    congr
    funext out
    exact out.2.choose_spec.2.2
  · rw [recordedCompile, hRecorded [], ← comp_map]
    congr
    funext out
    exact Prod.ext out.2.choose_spec.2.2 out.2.choose_spec.2.1

end

/-- One stage, a renderer that produces a map, and a writer that refuses maps. -/
def refusingMaps : Compiler Id where
  stages := [Banner.stage "notice"]
  renderer := RenderScript.renderer { map := some "map" }
  writer :=
    { write := fun path _ =>
        if path.extension? = some "map" then throw (.unknown "refused") else pure () }

def mappedRequest : ResolvedRequest where
  source := ⟨"/w/a.scss"⟩
  content := ""
  options := { sourceMap := some (.flag true) }
  workspaceRoot := none

section

attribute [local instance] WorkingDirectory.root

theorem compileResolved_trace_refused_map :
    LawfulMonad Id ∧ ∃ t : CompileTrace, t.Conforms 1 mappedRequest ∧
      (refusingMaps.compileResolved .silent mappedRequest).run = t.result ∧
      refusingMaps.recordedCompile .silent mappedRequest = (t.result, t.calls) ∧
      t.calls.length = 4 ∧ failure? t.result = some (.unknown "refused") := by
  obtain ⟨run, hPlain, hRecorded⟩ := compileResolved_trace refusingMaps .silent mappedRequest
  have hCalls : (refusingMaps.recordedCompile .silent mappedRequest).2.length = 4 := by
    decide +kernel
  have hError : failure? (refusingMaps.recordedCompile .silent mappedRequest).1 =
      some (.unknown "refused") := by
    decide +kernel
  rw [hRecorded] at hCalls hError
  exact ⟨inferInstance, run.1, run.2, hPlain, hRecorded, hCalls, hError⟩

end

end Compiler

end StylesheetBuild
