import StylesheetBuild.Proofs.Files.Writing
import StylesheetBuild.Proofs.Options.Merging
import StylesheetBuild.Proofs.Path.Absolute
import StylesheetBuild.Proofs.Settings.Initial
import StylesheetBuild.Renderer.Script
import StylesheetBuild.Toml.Reader

/-!
# Installing the global settings file

A new global settings file makes no difference as a global layer. But it is a settings file like any
other to the search for a workspace, and a document whose path comes by its directory may find it as
the nearest one. All other documents are compiled as they were before.
-/

namespace StylesheetBuild.Settings

open StylesheetBuild.Path FileTree

/-- The paths at which a settings file is looked for on behalf of a document, nearest first. -/
def searched (document : Path) : List Path :=
  ((document.parent?.map ancestors).getD []).map (·.joinText fileName)

theorem NearestAbove.mem_ancestors {fs : FileSystem Id} {start? found : Option Path}
    (h : NearestAbove fs start? found) : ∀ dir ∈ found, dir ∈ (start?.map ancestors).getD [] := by
  induction h with
  | nowhere => simp
  | @here start isFile =>
    rintro dir ⟨⟩
    simp [ancestors_eq start]
  | @above start found isMissing further ih =>
    intro dir hDir
    rw [Option.map_some, Option.getD_some, ancestors_eq start]
    exact List.mem_cons_of_mem _ (ih dir hDir)

theorem NearestAbove.isFile {fs : FileSystem Id} {start? : Option Path} {dir : Path}
    (h : NearestAbove fs start? (some dir)) : (fs.isFile (dir.joinText fileName)).run = true := by
  generalize hFound : some dir = found at h
  induction h with
  | nowhere => cases hFound
  | here isFile =>
    cases hFound
    exact isFile
  | above _ _ ih => exact ih hFound

/-- The settings file of the nearest directory is at one of the paths that are searched. -/
theorem NearestAbove.mem_searched {fs : FileSystem Id} {document dir : Path}
    (h : NearestAbove fs document.parent? (some dir)) : dir.joinText fileName ∈ searched document :=
  List.mem_map_of_mem (h.mem_ancestors dir rfl)

theorem placeOf_joinText (cwd : Place) {dir : Path} (h : dir.isAbsolute = true) :
    placeOf cwd (dir.joinText fileName) = dir.foldedNames ++ [fileName] := by
  have hName : IsName fileName := by decide
  rw [placeOf, steps_joinText hName, startOf, if_pos (isAbsolute_joinText h fileName),
    List.foldl_append, ← foldedNames_eq]
  rfl

/-- On behalf of a document whose path does not go up, the settings file of a folder is looked for
just when the document lies in the folder, perhaps in folders of its own. -/
theorem forall_searched_iff {document : Path} {name : String} (cwd : Place)
    (folder : List String) (hAbsolute : document.isAbsolute = true)
    (hName : document.fileName? = some name) (hParent : .parent ∉ document.steps) :
    (∀ p ∈ searched document, placeOf cwd p ≠ folder ++ [fileName]) ↔
      ¬folder <+: document.directory.foldedNames := by
  have hDirectory := isAbsolute_directory hAbsolute hName
  have hFolded (dir : Path) (hSteps : dir.steps <+: document.directory.steps) :
      dir.steps = dir.foldedNames.map .name :=
    steps_eq_map_foldedNames_iff.mpr fun hUp =>
      not_parent_mem_directory hParent (hSteps.subset hUp)
  have hWhole := hFolded document.directory (List.prefix_refl _)
  rw [searched, parent?_eq_directory hName, Option.map_some, Option.getD_some]
  constructor
  · intro hAvoids hFolder
    have hSteps : folder.map .name <+: document.directory.steps := by
      rw [hWhole]
      exact hFolder.map _
    obtain ⟨dir, hMember, hOwn⟩ := exists_mem_ancestors hDirectory hSteps
    refine hAvoids _ (List.mem_map_of_mem hMember) ?_
    rw [placeOf_joinText cwd (mem_ancestors hDirectory hMember).1, foldedNames_eq, hOwn,
      foldl_walk_names, List.nil_append]
  · rintro hOutside p hMember hPlace
    obtain ⟨dir, hDir, rfl⟩ := List.mem_map.mp hMember
    obtain ⟨hOwn, hSteps⟩ := mem_ancestors hDirectory hDir
    rw [placeOf_joinText cwd hOwn] at hPlace
    have hFolder : dir.foldedNames = folder := List.append_left_injective _ hPlace
    apply hOutside
    rw [hFolded dir hSteps, hWhole, hFolder] at hSteps
    exact (List.prefix_map_iff_of_injective fun _ _ => Component.name.inj).mp hSteps

section

variable {t after : FileTree} {cwd : Place} {file : Path} {content : ByteArray}
  (hWritten : t.Written cwd file content after)
include hWritten

theorem layer_of_written (decode : Decoder) {p : Path} (hOther : placeOf cwd p ≠ placeOf cwd file) :
    layer decode (after.snapshot cwd) p = layer decode (t.snapshot cwd) p := by
  rw [layer, layer, hWritten.after_eq, toOption_readText_set hWritten.free hOther]

/-- A search that ends in another directory than that of the new file has ended there before. -/
theorem NearestAbove.of_written (hNew : t.isFile cwd file = false) {start? found : Option Path}
    (h : NearestAbove (after.snapshot cwd) start? found)
    (hOther : ∀ dir ∈ found, placeOf cwd (dir.joinText fileName) ≠ placeOf cwd file) :
    NearestAbove (t.snapshot cwd) start? found := by
  have hSame : ∀ p, placeOf cwd p ≠ placeOf cwd file → after.isFile cwd p = t.isFile cwd p := by
    intro p hPlace
    rw [hWritten.after_eq, isFile_set hWritten.free hPlace]
  induction h with
  | nowhere => exact .nowhere
  | @here dir isFile => exact .here ((hSame _ (hOther dir rfl)).symm.trans isFile)
  | @above dir found isMissing further ih =>
    -- A spelling of the place of the new file still misses it if it leads through no directory.
    refine .above ?_ (ih hOther)
    by_cases hPlace : placeOf cwd (dir.joinText fileName) = placeOf cwd file
    · exact hWritten.isFile_eq_false hNew hPlace
    · exact (hSame _ hPlace).symm.trans isMissing

theorem workspace?_of_written (decode : Decoder) (hNew : t.isFile cwd file = false)
    {document : Path}
    (hOther : ∀ dir, NearestAbove (after.snapshot cwd) document.parent? (some dir) →
      placeOf cwd (dir.joinText fileName) ≠ placeOf cwd file) :
    (workspace? decode (after.snapshot cwd) document).run =
      (workspace? decode (t.snapshot cwd) document).run := by
  obtain ⟨found, hFound, hAfter⟩ := workspace?_eq decode (after.snapshot cwd) document
  obtain ⟨own, hOwn, hBefore⟩ := workspace?_eq decode (t.snapshot cwd) document
  have hElsewhere : ∀ dir ∈ found, placeOf cwd (dir.joinText fileName) ≠ placeOf cwd file := by
    rintro dir rfl
    exact hOther dir hFound
  obtain rfl := (hFound.of_written hWritten hNew hElsewhere).unique hOwn
  rw [hAfter, hBefore]
  cases found with
  | none => rfl
  | some dir => simp only [Option.map_some, layer_of_written hWritten decode (hElsewhere dir rfl)]

end

section

variable {m : Type → Type} [Monad m] [WorkingDirectory]
  (c : Compiler m) (progress : Progress m) (diagnostics : DiagnosticCollection)
  {decode : Decoder} {t after : FileTree} {cwd : Place} {file : Path} {text : String}
  {global : Option Path}

variable [LawfulMonad m]

theorem execute_of_written (hWritten : t.Written cwd file text.toUTF8 after)
    (hNew : t.isFile cwd file = false) (hInitial : parse? decode text = some initial)
    (hMissing : ∀ other ∈ global, t.isFile cwd other = false) {d : Document}
    (hOther : ∀ dir, NearestAbove (after.snapshot cwd) d.path.parent? (some dir) →
      placeOf cwd (dir.joinText fileName) ≠ placeOf cwd file) :
    c.execute (storeOf decode (after.snapshot cwd) (some file)) progress d diagnostics =
      c.execute (storeOf decode (t.snapshot cwd) global) progress d diagnostics ∧
    c.recordedExecute (storeOf decode (after.snapshot cwd) (some file)) progress d diagnostics =
      c.recordedExecute (storeOf decode (t.snapshot cwd) global) progress d diagnostics := by
  have hFile : after.isFile cwd file = true := isFile_iff.mpr ⟨_, _, hWritten.lookup_after⟩
  exact execute_of_workspace_eq c progress d diagnostics hFile
    (readText_snapshot hWritten.lookup_after) hInitial hMissing
    (workspace?_of_written hWritten decode hNew hOther)

end

/-! ## Installing -/

/-- The text of a new settings file says what it was made of. -/
theorem parse?_render?_initial : (render? initial).bind (parse? Toml.parse?) = some initial := by
  have hRead : ((render? initial).bind (parse? Toml.parse?)).isSome = true ∧
      ∀ o ∈ (render? initial).bind (parse? Toml.parse?),
        (o.outputPath = initial.outputPath ∧ o.outputExtension = initial.outputExtension ∧
          o.sameBaseWithCssFolder = initial.sameBaseWithCssFolder ∧
          o.keepFolderStructure = initial.keepFolderStructure) ∧
        (o.sourceMap = initial.sourceMap ∧ o.autoprefixer = initial.autoprefixer ∧
          o.relativeUrls = initial.relativeUrls ∧ o.rootFileInfo = initial.rootFileInfo ∧
          o.extra.isEmpty = true) := by
    decide +kernel
  -- Tables have no decidable equality, so the keys are compared one by one.
  obtain ⟨hSome, hFields⟩ := hRead
  obtain ⟨o, hOptions⟩ := Option.isSome_iff_exists.mp hSome
  obtain ⟨⟨hPath, hExtension, hSameBase, hKeep⟩, hMap, hPrefixer, hUrls, hRoot, hExtra⟩ :=
    hFields o hOptions
  have hKeys : ∀ {α : Type} (k : OptionKey α), o.get? k = initial.get? k := by
    intro α k
    cases k with
    | extra key =>
      rw [Options.get?, Std.ExtTreeMap.isEmpty_iff.mp hExtra]
      rfl
    | _ => assumption
  rw [hOptions, Options.ext_get? hKeys]

theorem createDirectories_of_isDirectory {t : FileTree} {cwd : Place} {p : Path}
    (h : t.isDirectory cwd p = true) : t.createDirectories cwd p = (.ok (), t) := by
  rw [createDirectories, ancestors_eq, createAll, ensureDirectory, if_pos h]
  exact ite_self _

theorem exists_of_run_bind {x : ExceptT ε (StateM σ) α} {next : α → ExceptT ε (StateM σ) β}
    {s after : σ} {b : β} (h : (x >>= next).run.run s = (.ok b, after)) :
    ∃ a between, x.run.run s = (.ok a, between) ∧
      (next a).run.run between = (.ok b, after) := by
  rw [ExceptT.run_bind, StateT.run_bind] at h
  rcases hFirst : x.run.run s with ⟨_ | a, between⟩
  · rw [hFirst] at h
    cases h
  · rw [hFirst] at h
    exact ⟨a, between, rfl, h⟩

theorem run_of_failing {p : Path} {action : ExceptT IoError (StateM FileTree) Unit}
    {t after : FileTree} (h : (install.failing p action).run.run t = (.ok (), after)) :
    action.run.run t = (.ok (), after) := by
  rw [install.failing, ExceptT.run_mk, StateT.run_bind] at h
  rcases hOwn : action.run.run t with ⟨_ | _, between⟩
  · rw [hOwn] at h
    cases h
  · rw [hOwn] at h
    cases h
    rfl

theorem eq_ok_of_changed {t after : FileTree} {change : Except IoError FileTree}
    (h : t.changed change = (.ok (), after)) : change = .ok after := by
  cases change <;> simp_all [changed]

/-- An installation makes the directory first and then writes the initial settings into it. -/
theorem write_of_install {t after : FileTree} {cwd : Place} {home file : Path}
    (h : (install (fileSystem cwd) home).run.run t = (.ok file, after)) :
    file = globalPath home ∧ ∃ text made, render? initial = some text ∧
      t.createDirectories cwd (configDirectory home) = (.ok (), made) ∧
      made.write cwd file text.toUTF8 = .ok after := by
  obtain ⟨_, made, hMade, h⟩ := exists_of_run_bind h
  split at h
  · cases h
  rename_i text hText
  obtain ⟨_, written, hWritten, h⟩ := exists_of_run_bind h
  cases h
  have hCreate : t.createDirectories cwd (configDirectory home) = (.ok (), made) :=
    run_of_failing hMade
  have hWrite : made.changed (made.write cwd (globalPath home) text.toUTF8) = (.ok (), after) :=
    run_of_failing hWritten
  exact ⟨rfl, text, made, hText, hCreate, eq_ok_of_changed hWrite⟩

theorem write_of_install_into {t after : FileTree} {cwd : Place} {home file : Path}
    (h : (install (fileSystem cwd) home).run.run t = (.ok file, after))
    (hDirectory : t.isDirectory cwd (configDirectory home) = true) :
    file = globalPath home ∧ ∃ text, parse? Toml.parse? text = some initial ∧
      t.write cwd file text.toUTF8 = .ok after := by
  obtain ⟨rfl, text, made, hText, hMade, hWrite⟩ := write_of_install h
  rw [createDirectories_of_isDirectory hDirectory] at hMade
  cases hMade
  obtain ⟨own, hOwn, hParse⟩ := Option.bind_eq_some_iff.mp parse?_render?_initial
  obtain rfl : own = text := Option.some.inj (hOwn.symm.trans hText)
  exact ⟨rfl, own, hParse, hWrite⟩

section

variable {m : Type → Type} [Monad m] [LawfulMonad m] [WorkingDirectory]
  (c : Compiler m) (progress : Progress m) (diagnostics : DiagnosticCollection)
  {t after : FileTree} {cwd : Place} {home file : Path}

/-- An installation changes no compile of a document outside of the directory that it writes to. -/
theorem execute_install (hInstall : (install (fileSystem cwd) home).run.run t = (.ok file, after))
    (hDirectory : t.isDirectory cwd (configDirectory home) = true)
    (hNew : t.isFile cwd file = false) {d : Document} {name : String}
    (hHome : home.isAbsolute = true) (hAbsolute : d.path.isAbsolute = true)
    (hName : d.path.fileName? = some name) (hParent : .parent ∉ d.path.steps)
    (hOutside : ¬(configDirectory home).foldedNames <+: d.path.directory.foldedNames) :
    c.execute (storeOf Toml.parse? (after.snapshot cwd) (some file)) progress d diagnostics =
      c.execute (storeOf Toml.parse? (t.snapshot cwd) none) progress d diagnostics ∧
    c.recordedExecute (storeOf Toml.parse? (after.snapshot cwd) (some file)) progress d
        diagnostics =
      c.recordedExecute (storeOf Toml.parse? (t.snapshot cwd) none) progress d diagnostics := by
  obtain ⟨rfl, text, hParse, hWrite⟩ := write_of_install_into hInstall hDirectory
  apply execute_of_written c progress diagnostics (written_of_write hWrite) hNew hParse
  · rintro other ⟨⟩
  intro dir hNearest
  have hPlace : placeOf cwd (globalPath home) = (configDirectory home).foldedNames ++ [fileName] :=
    placeOf_joinText cwd (isAbsolute_joinText hHome configDirectoryName)
  rw [hPlace]
  exact (forall_searched_iff cwd (configDirectory home).foldedNames hAbsolute hName hParent).mpr
    hOutside _ hNearest.mem_searched

end

section

attribute [local instance] WorkingDirectory.root

end

end StylesheetBuild.Settings
