import StylesheetBuild.Proofs.Compile.Outcomes
import StylesheetBuild.Proofs.Diagnostic.Ranges
import StylesheetBuild.Proofs.Stage.Banner
import StylesheetBuild.Proofs.Text.Lines
import StylesheetBuild.Renderer.Script

/-!
# Lines behind a banner

The renderer counts the lines of what the stages leave. A comment in front of a document moves them
down by its own lines, so that an error in the document is reported that much further down, while all
else in the diagnostic stays. Nothing maps the number back: behind a comment of several lines the
diagnostic does not point at the line of the document that is wrong.
-/

namespace StylesheetBuild

/-- What lines a renderer refuses, and how it calls the document and words its errors then. -/
structure LineCheck where
  forbids : List Char → Bool
  message : List Char → String
  column : List Char → Nat
  filename : String

namespace LineCheck

/-- The first line that is refused, with its number, counted from one. -/
def found? (check : LineCheck) (content : List Char) : Option (List Char × Nat) :=
  ((Text.lines content).zipIdx 1).find? fun line => check.forbids line.1

def errorAt (check : LineCheck) (line : List Char × Nat) : CompileError :=
  .render (check.message line.1) (some line.2) (some (check.column line.1)) (some check.filename)

def error? (check : LineCheck) (content : String) : Option CompileError :=
  (check.found? content.toList).map check.errorAt

variable {check : LineCheck}

theorem isSome_found?_iff {content : List Char} :
    (check.found? content).isSome = true ↔ ∃ line ∈ Text.lines content, check.forbids line = true := by
  rw [found?, List.find?_isSome]
  constructor
  · rintro ⟨line, hLine, hForbids⟩
    exact ⟨line.1, List.fst_mem_of_mem_zipIdx hLine, hForbids⟩
  · rintro ⟨line, hLine, hForbids⟩
    obtain ⟨index, hIndex⟩ := List.getElem?_of_mem hLine
    exact ⟨(line, 1 + index), List.mk_add_mem_zipIdx_iff_getElem?.mpr hIndex, hForbids⟩

theorem found?_pos {content : List Char} {line : List Char × Nat}
    (h : check.found? content = some line) : 0 < line.2 :=
  List.le_snd_of_mem_zipIdx (List.mem_of_find?_eq_some h)

/-- Lines that are not refused only count. -/
theorem find?_zipIdx_append {before : List (List Char)}
    (h : ∀ line ∈ before, check.forbids line = false) (after : List (List Char)) (first : Nat) :
    ((before ++ after).zipIdx first).find? (fun line => check.forbids line.1) =
      ((after.zipIdx first).find? fun line => check.forbids line.1).map
        (Prod.map id (· + before.length)) := by
  have hNone : (before.zipIdx first).find? (fun line => check.forbids line.1) = none := by
    rw [List.find?_eq_none]
    intro line hLine
    simp [h line.1 (List.fst_mem_of_mem_zipIdx hLine)]
  rw [List.zipIdx_append, List.find?_append, hNone, Option.none_or, Nat.add_comm first,
    ← List.map_snd_add_zipIdx_eq_zipIdx, List.find?_map]
  rfl

theorem found?_behind {front : List Char}
    (h : ∀ line ∈ Text.endedLines front, check.forbids line = false) (rest : List Char) :
    check.found? (front ++ '\n' :: rest) =
      (check.found? rest).map (Prod.map id (· + (1 + front.count '\n'))) := by
  rw [found?, Text.lines_append_lineFeed, find?_zipIdx_append h, Text.length_endedLines, Nat.add_comm 1]
  rfl

end LineCheck

namespace Diagnostic

/-- The same diagnostic, a number of lines further down. -/
structure IsLowered (count : Nat) (d lowered : Diagnostic) : Prop where
  file : lowered.affectedFile = d.affectedFile
  message : lowered.message = d.message
  columns : lowered.range.startColumn = d.range.startColumn ∧
    lowered.range.endColumn = d.range.endColumn
  startLine : lowered.range.startLine.toNat = d.range.startLine.toNat + count
  endLine : lowered.range.endLine.toNat = d.range.endLine.toNat + count

theorem isLowered_ofError_errorAt [WorkingDirectory] (check : LineCheck) (document : Path)
    {line : List Char × Nat}
    {count : Nat} (hPos : 0 < line.2) (hWord : line.2 + count ≤ UInt32.size) :
    IsLowered count (ofError (check.errorAt line) document)
      (ofError (check.errorAt (Prod.map id (· + count) line)) document) := by
  have hLine : (word (line.2 + count - 1)).toNat = (word (line.2 - 1)).toNat + count := by
    rw [toNat_word (by omega), toNat_word (by omega)]
    omega
  exact ⟨rfl, rfl, ⟨rfl, rfl⟩, hLine, hLine⟩

end Diagnostic

namespace RenderScript

/-- A script that refuses a text refuses the lines that hold it. -/
def lineCheck (needle filename : String) : LineCheck where
  forbids := Text.occursIn needle.toList
  message _ := "found " ++ needle
  column _ := 2
  filename := filename

theorem failsWith_render {m : Type → Type} [Monad m] [LawfulMonad m]
    (needle filename content : String) (options : RendererOptions) :
    FailsWith
      ((renderer (m := m) { needle := some needle, filename := some filename }).render content options)
      ((lineCheck needle filename).error? content) := by
  have hLine : lineWith? needle content =
      ((lineCheck needle filename).found? content.toList).map Prod.snd := by
    rw [lineWith?, List.findIdx?_eq_fst_find?_zipIdx, LineCheck.found?, List.zipIdx_succ,
      List.find?_map, Option.map_map, Option.map_map]
    rfl
  apply Yields.of_pure
  rw [LineCheck.error?]
  simp only [output, needleError?, Option.bind_eq_bind, Option.bind_some, hLine]
  cases (lineCheck needle filename).found? content.toList <;> rfl

end RenderScript

namespace Banner

theorem count_lineFeed_comment (text : String) :
    (comment text).toList.count '\n' = text.toList.count '\n' := by
  have hSanitized : (sanitize text).toList.count '\n' = text.toList.count '\n' := by
    rw [sanitize, String.toList_ofList]
    exact Text.count_replaceAll commentEnd_ne_nil (by decide) (by decide) text.toList
  simp [comment, hSanitized]

theorem lines_comment (text : String) :
    Text.lines (comment text).toList = Text.endedLines (comment text).toList := by
  have hLast : (comment text).toList = ("/* " ++ sanitize text ++ " *").toList ++ ['/'] := by
    simp [comment]
  rw [hLast, Text.lines_concat (by decide) (by decide)]

theorem found?_behind_comment {check : LineCheck} {text : String}
    (h : ∀ line ∈ Text.lines (comment text).toList, check.forbids line = false) (content : String) :
    check.found? (comment text ++ "\n" ++ content).toList =
      (check.found? content.toList).map (Prod.map id (· + (1 + text.toList.count '\n'))) := by
  rw [lines_comment] at h
  rw [← count_lineFeed_comment text, ← LineCheck.found?_behind h]
  simp

variable {m : Type → Type} [Monad m] [LawfulMonad m]

theorem preprocess_yields (renderer : Renderer m) (writer : ArtifactWriter m) (progress : Progress m)
    (text content : String) :
    Yields ((⟨[stage text], renderer, writer⟩ : Compiler m).preprocess progress content).run
      (· = .ok (comment text ++ "\n" ++ content)) := by
  have hRun : (Stage.run [stage (m := m) text] content).run =
      pure (.ok (comment text ++ "\n" ++ content)) := by
    simp [Stage.run, Stage.runFrom, stage, Stage.ofFunction, apply]
  change Yields (ExceptT.lift (progress.phase .preprocessing) >>= fun _ =>
    Stage.run [stage text] content).run _
  rw [ExceptT.run_bind_lift, hRun]
  exact (Yields.of_any _).bind fun _ _ => .of_pure rfl

/-- A banner in front of a document does not change whether a renderer refuses one of its lines, and
the diagnostic lies lower by the lines of the banner. -/
theorem execute_lowered [WorkingDirectory] {store : SettingsStore m} {renderer : Renderer m}
    {writer : ArtifactWriter m} {check : LineCheck} {text : String} {d : Document}
    (hStore : Yields (store d.path) fun settings =>
      (Compiler.requestOf d settings).options.isOutputDisabled = false)
    (hRender : ∀ content options, FailsWith (renderer.render content options) (check.error? content))
    (hWrite : ∀ path content, FailsWith (writer.write path content) none)
    (hComment : ∀ line ∈ Text.lines (comment text).toList, check.forbids line = false)
    (hWord : ∀ line ∈ check.found? d.content.toList,
      line.2 + (1 + text.toList.count '\n') ≤ UInt32.size)
    (progress : Progress m) (diagnostics : DiagnosticCollection) :
    ∃ plain lowered : Option Diagnostic,
      Yields ((⟨[], renderer, writer⟩ : Compiler m).execute store progress d diagnostics)
        (fun out => failure? out.1.result = plain) ∧
      Yields ((⟨[stage text], renderer, writer⟩ : Compiler m).execute store progress d diagnostics)
        (fun out => failure? out.1.result = lowered) ∧
      Option.Rel (Diagnostic.IsLowered (1 + text.toList.count '\n')) plain lowered ∧
      (plain.isSome = true ↔
        ∃ line ∈ Text.lines d.content.toList, check.forbids line = true) := by
  have hText : Yields ((⟨[], renderer, writer⟩ : Compiler m).preprocess progress d.content).run
      (· = .ok d.content) := .of_pure rfl
  refine ⟨_, _, Compiler.execute_yields progress diagnostics hStore hText (hRender _) hWrite,
    Compiler.execute_yields progress diagnostics hStore (preprocess_yields renderer writer progress text
      d.content) (hRender _) hWrite, ?_, ?_⟩
  · rw [LineCheck.error?, LineCheck.error?, found?_behind_comment hComment]
    cases hFound : check.found? d.content.toList with
    | none => exact .none
    | some line =>
      exact .some (Diagnostic.isLowered_ofError_errorAt check d.path (LineCheck.found?_pos hFound)
        (hWord line hFound))
  · rw [Option.isSome_map, LineCheck.error?, Option.isSome_map, LineCheck.isSome_found?_iff]

/-- A compiler that refuses lines with a doubled bracket in `main.less`. -/
def refusingBrackets (stages : List (Stage Id)) : Compiler Id where
  stages := stages
  renderer := RenderScript.renderer { needle := some "\x7b\x7b", filename := some "main.less" }
  writer := { write := fun _ _ => pure () }

section

attribute [local instance] WorkingDirectory.root

/-- Behind a banner of two lines the second line of a document is reported as the fourth, which the
document does not even have. -/
theorem execute_lowered_two_lines :
    let check := RenderScript.lineCheck "\x7b\x7b" "main.less"
    let text := "Do not edit */\r\nsee styles"
    let d : Document := ⟨⟨"/proj/less/main.less"⟩, "@a: b;\r\n.c \x7b\x7b\r\n\x7d"⟩
    let store : SettingsStore Id := fun _ => none
    let run stages := (refusingBrackets stages).execute store .silent d .empty
    LawfulMonad Id ∧ (Compiler.requestOf d (store d.path)).options.isOutputDisabled = false ∧
      (∀ line ∈ Text.lines (comment text).toList, check.forbids line = false) ∧
      (∀ line ∈ check.found? d.content.toList,
        line.2 + (1 + text.toList.count '\n') ≤ UInt32.size) ∧
      ∃ plain lowered : Diagnostic,
        failure? (run []).1.result = some plain ∧
        failure? (run [stage text]).1.result = some lowered ∧
        Diagnostic.IsLowered 2 plain lowered ∧
        plain.affectedFile = d.path ∧ plain.range = ⟨1, 2, 1, 4096⟩ := by
  intro check text d store run
  have hOn : (Compiler.requestOf d (store d.path)).options.isOutputDisabled = false := by
    decide +kernel
  have hStore : Yields (store d.path) fun settings =>
      (Compiler.requestOf d settings).options.isOutputDisabled = false :=
    .of_pure hOn
  have hComment : ∀ line ∈ Text.lines (comment text).toList, check.forbids line = false := by
    decide +kernel
  have hWord : ∀ line ∈ check.found? d.content.toList,
      line.2 + (1 + text.toList.count '\n') ≤ UInt32.size := by
    decide +kernel
  have hWrite (path : Path) (content : String) :
      FailsWith ((refusingBrackets []).writer.write path content) none :=
    .of_pure ()
  have hRefused : failure? (run []).1.result =
      some ⟨"found \x7b\x7b", ⟨1, 2, 1, 4096⟩, d.path⟩ := by
    decide +kernel
  have hCount : 1 + text.toList.count '\n' = 2 := by decide +kernel
  obtain ⟨plain, lowered, ⟨runPlain, hPlain⟩, ⟨runLowered, hLowered⟩, hRel, -⟩ :=
    execute_lowered hStore (RenderScript.failsWith_render "\x7b\x7b" "main.less") hWrite hComment hWord
      .silent .empty
  have hPlainResult : failure? (run []).1.result = plain := by
    rw [show run [] = runPlain.val from hPlain]
    exact runPlain.property
  have hLoweredResult : failure? (run [stage text]).1.result = lowered := by
    rw [show run [stage text] = runLowered.val from hLowered]
    exact runLowered.property
  rw [hCount, ← hPlainResult, hRefused] at hRel
  cases hRel with
  | some hLowers =>
    exact ⟨inferInstance, hOn, hComment, hWord, _, _, hRefused, hLoweredResult, hLowers, rfl, rfl⟩

end

end Banner

end StylesheetBuild
