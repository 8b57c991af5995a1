import StylesheetBuild.Proofs.Diagnostic.Naming
import StylesheetBuild.Proofs.Diagnostic.Ranges
import StylesheetBuild.Proofs.Scss.Entry

/-!
# Refusals of the root document

The bundled renderer refuses a text at a position of a file, which it calls by a fixed name where it
was given the root document and by the path where it has loaded it. On the way to the diagnostic the
line is counted from one and from zero again, and the name becomes a path that is made absolute.
Position and document come out as they went in, so the failure comes and goes with the document.
-/

namespace StylesheetBuild

open StylesheetBuild.Path

/-- What the renderer calls the root document when it refuses it, and the root that it knows then. -/
inductive Scss.CallsRoot (document : Path) : Option Path → String → Prop where
  | fromMemory : CallsRoot document (some document) unnamedSource
  | fromPath (root : Option Path) : CallsRoot document root (RootFileInfo.ofPath document).path.text

theorem Scss.CallsRoot.blames {document : Path} {root : Option Path} {file name : String}
    (h : CallsRoot document root file) (hAbsolute : document.isAbsolute = true)
    (hName : document.fileName? = some name) (refusal : Refusal) :
    ∃ p : Path, p.isAbsolute = true ∧ p.key = document.key ∧
      Failure.toCompileError root (.refused refusal file) =
        .render refusal.message (some (refusal.position.line + 1)) (some refusal.position.column)
          (some p.text) := by
  cases h with
  | fromMemory => exact ⟨document, hAbsolute, rfl, blames_unnamed document refusal⟩
  | fromPath =>
    have hPath := RootFileInfo.isAbsolute_path_ofPath hAbsolute hName
    exact ⟨_, hPath, RootFileInfo.key_path_ofPath hAbsolute hName, blames_named root hPath refusal⟩

namespace Diagnostic

theorem key_namedFile_text [WorkingDirectory] {p : Path} (hAbsolute : p.isAbsolute = true)
    (document : Path) :
    (namedFile p.text document).key = p.key := by
  have hFirst : p.text.toList.head? = some '/' := beq_iff_eq.mp hAbsolute
  -- Such a name is not bare, and joining it to the directory replaces the directory.
  have hSlash : p.text.toList.any isSeparator = true :=
    List.any_eq_true.mpr ⟨'/', List.mem_of_head? hFirst, by decide⟩
  have hJoin : document.directory.joinText p.text = p := if_pos hAbsolute
  rw [namedFile, hSlash, if_neg (by simp), hJoin, key, components_absolute hAbsolute, key,
    components_eq_of_isAbsolute hAbsolute]

structure Relays (d : Diagnostic) (refusal : Scss.Refusal) (document : Path) : Prop where
  message : d.message = refusal.message
  start : d.range.startLine.toNat = refusal.position.line ∧
    d.range.startColumn.toNat = refusal.position.column
  stop : d.range.endLine.toNat = refusal.position.line ∧ d.range.endColumn.toNat = 4096
  file : d.affectedFile.same document = true

theorem relays_ofError [WorkingDirectory] {refusal : Scss.Refusal} {document p : Path}
    (hLine : refusal.position.line < UInt32.size) (hColumn : refusal.position.column < UInt32.size)
    (hKey : (namedFile p.text document).key = document.key) :
    (ofError (.render refusal.message (some (refusal.position.line + 1))
      (some refusal.position.column) (some p.text)) document).Relays refusal document where
  message := rfl
  start := ⟨toNat_word hLine, toNat_word hColumn⟩
  stop := ⟨toNat_word hLine, rfl⟩
  file := beq_iff_eq.mpr hKey

/-- A failure of the document stands at the document, and a success of the document leaves nothing
of it, whatever has come between. -/
structure ComesAndGoes (d : Diagnostic) (document : Path) (diagnostics : DiagnosticCollection)
    (out : List Attempt × DiagnosticCollection) : Prop where
  filed : ∀ before, out.1 = before ++ [⟨document, .error d⟩] → out.2.get document = [d]
  removed : ∀ before report, out.1 = before ++ [⟨document, .ok report⟩] →
    out.2.get d.affectedFile = []
  forgotten : ∀ before between report,
    out.1 = before ++ ⟨document, .error d⟩ :: (between ++ [⟨document, .ok report⟩]) →
    out.2 = diagnostics.recordAll (before ++ (between ++ [⟨document, .ok report⟩]))

theorem comesAndGoes_recordAll {d : Diagnostic} {document : Path}
    (hFile : d.affectedFile.key = document.key) (attempts : List Attempt)
    (diagnostics : DiagnosticCollection) :
    d.ComesAndGoes document diagnostics (attempts, diagnostics.recordAll attempts) where
  filed before := by
    rintro rfl
    rw [DiagnosticCollection.recordAll_concat]
    exact (DiagnosticCollection.get_record _ ⟨document, .error d⟩ document).trans (if_pos hFile)
  removed before report := by
    rintro rfl
    rw [DiagnosticCollection.recordAll_concat]
    exact (DiagnosticCollection.get_record _ ⟨document, .ok report⟩ _).trans (if_pos hFile.symm)
  forgotten before between report := by
    rintro rfl
    rw [DiagnosticCollection.recordAll_append, DiagnosticCollection.recordAll_append]
    exact DiagnosticCollection.recordAll_forgets _ ⟨document, .error d⟩ ⟨document, .ok report⟩ hFile
      between

end Diagnostic

namespace Execution

/-- A refusal of the root document becomes a diagnostic with its message and its position in the
document, and every series of executions clears that diagnostic with a success of the document. -/
theorem refused_root_relayed [WorkingDirectory] {m : Type → Type} [Monad m] [LawfulMonad m]
    {document : Path} {name : String} {root : Option Path} {file : String} {refusal : Scss.Refusal}
    (hAbsolute : document.isAbsolute = true) (hName : document.fileName? = some name)
    (hLine : refusal.position.line < UInt32.size) (hColumn : refusal.position.column < UInt32.size)
    (hCalls : Scss.CallsRoot document root file) :
    let d := Diagnostic.ofError (Scss.Failure.toCompileError root (.refused refusal file)) document
    d.Relays refusal document ∧
    ∀ (es : List (Execution m)) (diagnostics : DiagnosticCollection),
      ∃ run : m {out : List Attempt × DiagnosticCollection //
          d.ComesAndGoes document diagnostics out},
        runAll es diagnostics = Subtype.val <$> run := by
  intro d
  obtain ⟨p, hPath, hSame, hError⟩ := hCalls.blames hAbsolute hName refusal
  have hKey := (Diagnostic.key_namedFile_text hPath document).trans hSame
  have hRelays : d.Relays refusal document := by
    simp only [d, hError]
    exact Diagnostic.relays_ofError hLine hColumn hKey
  refine ⟨hRelays, ?_⟩
  intro es diagnostics
  apply runAll_satisfies
  intro attempts
  exact Diagnostic.comesAndGoes_recordAll (beq_iff_eq.mp hRelays.file) attempts diagnostics

/-- Three compiles by the bundled renderer, the first two of a text that it refuses: one loads the
text, one is given the text by a stage. -/
def refusedTwice (document : Path) : List (Execution Id) :=
  let broken := ".a \x7b\n  b: $c;\n\x7d"
  let repaired := "$c: d;\n.a \x7b\n  b: $c;\n\x7d"
  [⟨.bundled [], fun _ => none, .silent, ⟨document, broken⟩⟩,
    ⟨.bundled [Compiler.sameText], fun _ => none, .silent, ⟨document, broken⟩⟩,
    ⟨.bundled [], fun _ => none, .silent, ⟨document, repaired⟩⟩]

section

attribute [local instance] WorkingDirectory.root

theorem refused_root_relayed_both_ways :
    let document : Path := ⟨"//proj//less/../less/./main.scss"⟩
    let refusal : Scss.Refusal := ⟨"Undefined variable.", ⟨1, 5⟩⟩
    let loaded := (RootFileInfo.ofPath document).path
    let byPath := Diagnostic.ofError
      (Scss.Failure.toCompileError (some loaded) (.refused refusal loaded.text)) document
    let byText := Diagnostic.ofError
      (Scss.Failure.toCompileError (some document) (.refused refusal Scss.unnamedSource)) document
    let out := runAll (refusedTwice document) .empty
    document.isAbsolute = true ∧ document.fileName? = some "main.scss" ∧
      refusal.position.line < UInt32.size ∧ refusal.position.column < UInt32.size ∧
      Scss.CallsRoot document (some loaded) loaded.text ∧
      Scss.CallsRoot document (some document) Scss.unnamedSource ∧
      byPath.Relays refusal document ∧ byPath.ComesAndGoes document .empty out ∧
      byText.Relays refusal document ∧ byText.ComesAndGoes document .empty out ∧
      out.1.map Attempt.recorded? = [some [byPath], some [byText], none] := by
  intro document refusal loaded byPath byText out
  have hAbsolute : document.isAbsolute = true := by decide +kernel
  have hName : document.fileName? = some "main.scss" := by decide +kernel
  have hLine : refusal.position.line < UInt32.size := by decide
  have hColumn : refusal.position.column < UInt32.size := by decide
  have hLoaded : Scss.CallsRoot document (some loaded) loaded.text := .fromPath _
  have hGiven : Scss.CallsRoot document (some document) Scss.unnamedSource := .fromMemory
  have hAttempts : out.1.map Attempt.recorded? = [some [byPath], some [byText], none] := by
    decide +kernel
  obtain ⟨hRelaysPath, hSeriesPath⟩ :=
    refused_root_relayed (m := Id) hAbsolute hName hLine hColumn hLoaded
  obtain ⟨hRelaysText, hSeriesText⟩ :=
    refused_root_relayed (m := Id) hAbsolute hName hLine hColumn hGiven
  obtain ⟨runPath, hRunPath⟩ := hSeriesPath (refusedTwice document) .empty
  obtain ⟨runText, hRunText⟩ := hSeriesText (refusedTwice document) .empty
  refine ⟨hAbsolute, hName, hLine, hColumn, hLoaded, hGiven, hRelaysPath, ?_, hRelaysText, ?_,
    hAttempts⟩
  · exact Eq.subst (motive := byPath.ComesAndGoes document .empty) hRunPath.symm runPath.property
  · exact Eq.subst (motive := byText.ComesAndGoes document .empty) hRunText.symm runText.property

end

end Execution

end StylesheetBuild
