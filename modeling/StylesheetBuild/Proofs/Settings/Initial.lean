import StylesheetBuild.Proofs.Compile.Calls
import StylesheetBuild.Proofs.Settings.Precedence

/-!
# The initial settings file

A new global settings file spells out what is done anyway. Its layer ends up below everything else
that sets a key, as the built-in defaults set none of its keys; and options below which it lies are
read by a compile in the same way as without it, whatever they set.
-/

namespace StylesheetBuild

namespace Settings

/-- The defaults of a document set no key that the initial settings set. -/
theorem get?_initial_or_defaultsFor (document : Path) (k : OptionKey α) :
    (initial.get? k).or ((Options.defaultsFor document).get? k) =
      ((Options.defaultsFor document).get? k).or (initial.get? k) := by
  cases k with
  | extra key => simp [Options.get?, initial, Options.defaultsFor]
  | _ => rfl

theorem options_resolve (d : Document) (settings : Option ScopedSettings) :
    (d.resolve settings).options =
      (Options.underSettings d.path settings).1.withDirectives d.content :=
  rfl

theorem workspaceRoot_resolve (d : Document) (settings : Option ScopedSettings) :
    (d.resolve settings).workspaceRoot = (Options.underSettings d.path settings).2 :=
  rfl

/-- As a global layer the initial settings act below the defaults. -/
theorem resolve_combine_initial (d : Document) (workspace : Option (Options × Path)) :
    (d.resolve (combine (some initial) workspace)).options =
      initial.merge (d.resolve (combine none workspace)).options := by
  apply Options.ext_get?
  intro α k
  rw [options_resolve, options_resolve, Options.get?_merge, Options.withDirectives,
    Options.withDirectives, Options.get?_merge, Options.get?_merge, get?_underSettings,
    get?_underSettings]
  simp [get?_initial_or_defaultsFor, Option.or_assoc]

section

variable (o : Options)

theorem isOutputDisabled_initial_merge :
    (initial.merge o).isOutputDisabled = o.isOutputDisabled := by
  cases hPath : o.outputPath <;>
    simp [Options.isOutputDisabled, Options.merge, initial, hPath]

theorem hasTemplate_initial_merge : (initial.merge o).hasTemplate = o.hasTemplate := by
  cases hPath : o.outputPath <;> simp [Options.hasTemplate, Options.merge, initial, hPath]

theorem keepsFolders_initial_merge : (initial.merge o).keepsFolders = o.keepsFolders := by
  cases hKeep : o.keepFolderStructure <;>
    simp [Options.keepsFolders, Options.merge, initial, hKeep]

theorem usesCssFolder_initial_merge : (initial.merge o).usesCssFolder = o.usesCssFolder := by
  cases hFolder : o.sameBaseWithCssFolder <;>
    simp [Options.usesCssFolder, Options.merge, initial, hFolder]

/-- The extension in the initial settings is the one that an artifact has without any. -/
theorem artifactExtension_initial_merge :
    (initial.merge o).artifactExtension = o.artifactExtension := by
  cases hExtension : o.outputExtension with
  | none =>
    have hDefault : (initial.merge o).artifactExtension = initial.artifactExtension := by
      simp [Options.artifactExtension, Options.merge, hExtension]
    have hUnset : o.artifactExtension = Options.empty.artifactExtension := by
      simp [Options.artifactExtension, Options.empty, hExtension]
    rw [hDefault, hUnset]
    decide +kernel
  | some extension => simp [Options.artifactExtension, Options.merge, hExtension]

theorem extensionLabel_initial_merge : (initial.merge o).extensionLabel = o.extensionLabel := by
  cases hExtension : o.outputExtension with
  | none =>
    have hDefault : (initial.merge o).extensionLabel = initial.extensionLabel := by
      simp [Options.extensionLabel, Options.merge, hExtension]
    have hUnset : o.extensionLabel = Options.empty.extensionLabel := by
      simp [Options.extensionLabel, Options.empty, hExtension]
    rw [hDefault, hUnset]
    decide +kernel
  | some extension => simp [Options.extensionLabel, Options.merge, hExtension]

theorem sourceMap_initial_merge :
    (initial.merge o).sourceMap.filter SourceMapOption.isEnabled =
      o.sourceMap.filter SourceMapOption.isEnabled := by
  cases hMap : o.sourceMap <;> simp [Options.merge, initial, hMap, SourceMapOption.isEnabled]

theorem extra_initial_merge : (initial.merge o).extra = o.extra := by
  apply Std.ExtTreeMap.ext_getElem?
  intro key
  rw [Options.getElem?_extra_merge]
  simp [initial]

theorem warnings_initial_merge : (initial.merge o).warnings = o.warnings := by
  rw [Options.warnings, Options.warnings, keepsFolders_initial_merge, usesCssFolder_initial_merge,
    hasTemplate_initial_merge]

theorem path_initial_merge [WorkingDirectory] (source sourceDir : Path)
    (workspaceRoot : Option Path) :
    Artifact.path (initial.merge o) source sourceDir workspaceRoot =
      Artifact.path o source sourceDir workspaceRoot := by
  have hPlace : ∀ template,
      Artifact.placeOfTemplate (initial.merge o) template source sourceDir workspaceRoot =
        Artifact.placeOfTemplate o template source sourceDir workspaceRoot := by
    intro template
    simp only [Artifact.placeOfTemplate, artifactExtension_initial_merge,
      keepsFolders_initial_merge]
  have hPath : (initial.merge o).outputPath = o.outputPath.or (some .besideSource) := rfl
  cases hOwn : o.outputPath with
  | none =>
    simp only [Artifact.path, hPath, hOwn, Option.none_or, usesCssFolder_initial_merge,
      artifactExtension_initial_merge]
  | some place =>
    simp only [Artifact.path, hPath, hOwn, Option.some_or, usesCssFolder_initial_merge,
      artifactExtension_initial_merge, hPlace]

end

section

variable [WorkingDirectory] (r : ResolvedRequest)

/-- The request with the initial settings below its options. -/
def overInitial : ResolvedRequest :=
  { r with options := initial.merge r.options }

theorem cssPath_overInitial : (overInitial r).cssPath = r.cssPath :=
  path_initial_merge r.options r.source r.source.directory r.workspaceRoot

theorem rendererOptions_overInitial (changed : Bool) (content : String) :
    (overInitial r).rendererOptions changed content = r.rendererOptions changed content := by
  have hMap : (overInitial r).sourceMapSettings? = r.sourceMapSettings? := by
    rw [ResolvedRequest.sourceMapSettings?, ResolvedRequest.sourceMapSettings?,
      cssPath_overInitial]
    exact congrArg _ (sourceMap_initial_merge r.options)
  have hPlugins : (overInitial r).plugins content = r.plugins content := by
    have hVendor : (initial.merge r.options).autoprefixer = r.options.autoprefixer :=
      Option.or_none
    simp only [ResolvedRequest.plugins, overInitial, hVendor]
  have hRoot : (initial.merge r.options).rootFileInfo = r.options.rootFileInfo := Option.or_none
  have hUrls : (initial.merge r.options).relativeUrls = r.options.relativeUrls := Option.or_none
  rw [ResolvedRequest.rendererOptions, ResolvedRequest.rendererOptions, hMap, hPlugins]
  simp only [overInitial, hRoot, hUrls, extra_initial_merge]

/-- Nothing that a compile asks of the options depends on whether the initial settings lie below
them. -/
theorem compileResolved_overInitial {m : Type → Type} [Monad m] (c : Compiler m)
    (progress : Progress m) :
    c.compileResolved progress (overInitial r) = c.compileResolved progress r := by
  have hDisabled : (overInitial r).options.isOutputDisabled = r.options.isOutputDisabled :=
    isOutputDisabled_initial_merge r.options
  simp only [Compiler.compileResolved, rendererOptions_overInitial, cssPath_overInitial, hDisabled]
  rfl

end

/-- The settings of documents on a file system that does not change meanwhile. -/
def storeOf (decode : Decoder) (fs : FileSystem Id) (global : Option Path) {m : Type → Type}
    [Monad m] : SettingsStore m :=
  fun document => pure (lookup decode fs global document).run

theorem requestOf_combine_initial (d : Document) (workspace : Option (Options × Path)) :
    Compiler.requestOf d (combine (some initial) workspace) =
      overInitial (Compiler.requestOf d (combine none workspace)) := by
  have hRoot : (d.resolve (combine (some initial) workspace)).workspaceRoot =
      (d.resolve (combine none workspace)).workspaceRoot := by
    rw [workspaceRoot_resolve, workspaceRoot_resolve, workspaceRoot_underSettings,
      workspaceRoot_underSettings]
  rw [Compiler.requestOf, Compiler.requestOf, overInitial, resolve_combine_initial, hRoot]

section

variable {decode : Decoder} {fs : FileSystem Id}

theorem globalLayer?_of_parse? {file : Path} {text : String} {o : Options}
    (hFile : (fs.isFile file).run = true) (hText : (fs.readText file).run.run = .ok text)
    (hOptions : parse? decode text = some o) :
    (globalLayer? decode fs (some file)).run = some o := by
  simp [globalLayer?, hFile, load?, load, hText, hOptions, Except.toOption]

theorem globalLayer?_of_missing {global : Option Path}
    (hMissing : ∀ file ∈ global, (fs.isFile file).run = false) :
    (globalLayer? decode fs global).run = none := by
  cases global with
  | none => rfl
  | some file => simp [globalLayer?, hMissing file rfl]

end

section

variable {m : Type → Type} [Monad m] [WorkingDirectory]

theorem execute_storeOf (decode : Decoder) (fs : FileSystem Id) (global : Option Path)
    (c : Compiler m) (progress : Progress m) (d : Document) (diagnostics : DiagnosticCollection) :
    c.execute (storeOf decode fs global) progress d diagnostics =
      c.execute (fun _ => pure
        (combine (globalLayer? decode fs global).run (workspace? decode fs d.path).run))
        progress d diagnostics := by
  rw [Compiler.execute, Compiler.execute]
  rfl

variable [LawfulMonad m]

theorem execute_combine_initial (c : Compiler m) (progress : Progress m)
    (d : Document) (diagnostics : DiagnosticCollection) (workspace : Option (Options × Path)) :
    c.execute (fun _ => pure (combine (some initial) workspace)) progress d diagnostics =
      c.execute (fun _ => pure (combine none workspace)) progress d diagnostics := by
  simp only [Compiler.execute, pure_bind, requestOf_combine_initial, compileResolved_overInitial]
  simp only [overInitial, extensionLabel_initial_merge, warnings_initial_merge]

/-- A global settings file that says what a new one says makes no difference to a document that has
the same workspace settings with and without it. -/
theorem execute_of_workspace_eq (c : Compiler m) (progress : Progress m) (d : Document)
    (diagnostics : DiagnosticCollection) {decode : Decoder} {fs fs' : FileSystem Id} {file : Path}
    {text : String} {global : Option Path} (hFile : (fs.isFile file).run = true)
    (hText : (fs.readText file).run.run = .ok text) (hInitial : parse? decode text = some initial)
    (hMissing : ∀ other ∈ global, (fs'.isFile other).run = false)
    (hWorkspace : (workspace? decode fs d.path).run = (workspace? decode fs' d.path).run) :
    c.execute (storeOf decode fs (some file)) progress d diagnostics =
      c.execute (storeOf decode fs' global) progress d diagnostics ∧
    c.recordedExecute (storeOf decode fs (some file)) progress d diagnostics =
      c.recordedExecute (storeOf decode fs' global) progress d diagnostics := by
  have hGlobal := globalLayer?_of_parse? hFile hText hInitial
  have hNone : (globalLayer? decode fs' global).run = none := globalLayer?_of_missing hMissing
  constructor
  · rw [execute_storeOf, execute_storeOf, hGlobal, hNone, hWorkspace, execute_combine_initial]
  · rw [Compiler.recordedExecute, Compiler.recordedExecute, execute_storeOf, execute_storeOf,
      hGlobal, hNone, hWorkspace, execute_combine_initial]

end

end Settings

end StylesheetBuild
