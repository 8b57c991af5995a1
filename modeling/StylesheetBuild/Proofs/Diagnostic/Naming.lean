import StylesheetBuild.Proofs.Compile.Executions
import StylesheetBuild.Proofs.Path.Absolute

/-!
# Names of the failing file

An error names the file that it lies in, and the renderer is free in how it spells the name. The
diagnostic is filed under the name as spelled, read from the directory of the document. A name for
the document itself leads back to the entry of the document as long as it does not go up: silent
segments are no components, but a `..` and the folder before it stay in the path.
-/

namespace StylesheetBuild

open StylesheetBuild.Path

theorem Diagnostic.namedFile_same_iff [WorkingDirectory] {document : Path} {filename : String}
    (hAbsolute : document.isAbsolute = true) (hParent : .parent ∉ document.steps)
    (hResolved : (document.directory.resolve ⟨filename⟩).same document = true) :
    (namedFile filename document).same document = true ↔ .parent ∉ (⟨filename⟩ : Path).steps := by
  rw [same, beq_iff_eq, key, key] at hResolved ⊢
  rw [namedFile]
  split
  · rename_i hBare
    simp only [Bool.and_eq_true, beq_iff_eq] at hBare
    refine iff_of_true rfl ?_
    have hName := isName_of_mem_steps (name_mem_steps hBare.2)
    rw [← ofChars_chars ⟨filename⟩, chars, hName.steps_ofChars]
    simp
  · have hRoot : (document.directory.resolve ⟨filename⟩).isAbsolute = true := by
      rw [isAbsolute_iff, hResolved, ← isAbsolute_iff]
      exact hAbsolute
    rw [← hResolved]
    exact components_absolute_joinText_iff (not_parent_mem_directory hParent)
      (isOk_of_isAbsolute_resolve hRoot)

/-- Errors that call the document `filename` are filed under it, and gone once it has succeeded. -/
structure TracksName [WorkingDirectory] (filename : String) (document : Path)
    (out : List Attempt × DiagnosticCollection) : Prop where
  filed : ∀ before message line column,
    let d := Diagnostic.ofError (.render message line column (some filename)) document
    out.1 = before ++ [⟨document, .error d⟩] → out.2.get document = [d]
  cleared : ∀ before report, out.1 = before ++ [⟨document, .ok report⟩] →
    out.2.get (Diagnostic.namedFile filename document) = []

theorem tracksName_foldl [WorkingDirectory] {document : Path} {filename : String}
    (hSame : (Diagnostic.namedFile filename document).key = document.key)
    (attempts : List Attempt) (diagnostics : DiagnosticCollection) :
    TracksName filename document (attempts,
      attempts.foldl (fun c a => c.record a.document a.result) diagnostics) where
  filed before message line column := by
    rintro d rfl
    rw [List.foldl_append, List.foldl_cons, List.foldl_nil]
    exact (DiagnosticCollection.get_record _ ⟨document, .error d⟩ document).trans (if_pos hSame)
  cleared before report := by
    rintro rfl
    rw [List.foldl_append, List.foldl_cons, List.foldl_nil]
    exact (DiagnosticCollection.get_record _ ⟨document, .ok report⟩ _).trans (if_pos hSame.symm)

namespace Execution

/-- A name for the document is filed under it just when the name does not go up, and then the errors
with that name come and go with the document in every series of executions. -/
theorem namedFile_filed [WorkingDirectory] {m : Type → Type} [Monad m] [LawfulMonad m]
    {document : Path} {filename : String} (hAbsolute : document.isAbsolute = true)
    (hParent : .parent ∉ document.steps)
    (hResolved : (document.directory.resolve ⟨filename⟩).same document = true) :
    ((Diagnostic.namedFile filename document).same document = true ↔
      .parent ∉ (⟨filename⟩ : Path).steps) ∧
    (.parent ∉ (⟨filename⟩ : Path).steps →
      ∀ (es : List (Execution m)) (diagnostics : DiagnosticCollection),
        ∃ run : m {out : List Attempt × DiagnosticCollection // TracksName filename document out},
          runAll es diagnostics = Subtype.val <$> run) := by
  have hSame := Diagnostic.namedFile_same_iff hAbsolute hParent hResolved
  refine ⟨hSame, fun hName es diagnostics => ?_⟩
  obtain ⟨attempted, hAttempted⟩ := runAll_eq es diagnostics
  have hKey := beq_iff_eq.mp (hSame.mpr hName)
  refine ⟨(fun attempts => ⟨_, tracksName_foldl hKey attempts.1 diagnostics⟩) <$> attempted, ?_⟩
  rw [hAttempted, ← comp_map]
  rfl

/-- A compile that fails with an error of that name, or one that succeeds. -/
def named (filename : Option String) (document : Path) : Execution Id where
  compiler :=
    { stages := []
      renderer := RenderScript.renderer
        { failure := filename.map fun name => .render "undefined" (some 2) (some 9) (some name) }
      writer := { write := fun _ _ => pure () } }
  store _ := none
  progress := .silent
  document := ⟨document, ""⟩

section

attribute [local instance] WorkingDirectory.root

theorem namedFile_filed_silent_segments :
    let document : Path := ⟨"/proj/less/main.less"⟩
    let filename := "/proj//less/./main.less"
    document.isAbsolute = true ∧ .parent ∉ document.steps ∧
      (document.directory.resolve ⟨filename⟩).same document = true ∧
      (Diagnostic.namedFile filename document).same document = true ∧
      TracksName filename document
        (runAll [named (some filename) document, named none document] .empty) := by
  intro document filename
  have hAbsolute : document.isAbsolute = true := by decide +kernel
  have hParent : .parent ∉ document.steps := by decide +kernel
  have hResolved : (document.directory.resolve ⟨filename⟩).same document = true := by
    decide +kernel
  have hName : .parent ∉ (⟨filename⟩ : Path).steps := by decide +kernel
  obtain ⟨hSame, hTracks⟩ := namedFile_filed (m := Id) hAbsolute hParent hResolved
  obtain ⟨run, hRun⟩ := hTracks hName [named (some filename) document, named none document] .empty
  refine ⟨hAbsolute, hParent, hResolved, hSame.mpr hName, ?_⟩
  rw [hRun]
  exact run.property

/-- A name that leaves the folder of the document and enters it again is filed apart, and stays
there when the document succeeds. -/
theorem namedFile_apart_climbing :
    let document : Path := ⟨"/proj/less/main.less"⟩
    let filename := "../less/main.less"
    let series := [named (some filename) document, named none document]
    document.isAbsolute = true ∧ .parent ∉ document.steps ∧
      (document.directory.resolve ⟨filename⟩).same document = true ∧
      (Diagnostic.namedFile filename document).same document = false ∧
      (runAll series .empty).1.map (fun a => (a.document, a.result.isOk)) =
        [(document, false), (document, true)] ∧
      ((runAll series .empty).2.get (Diagnostic.namedFile filename document)).length = 1 := by
  decide +kernel

end

end Execution

end StylesheetBuild
