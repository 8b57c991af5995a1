import StylesheetBuild.Artifact.Meta
import StylesheetBuild.Artifact.Path
import StylesheetBuild.Diagnostic.Basic
import StylesheetBuild.Directive.Basic
import StylesheetBuild.Renderer.Basic
import StylesheetBuild.Stage.Basic

/-!
# Compiling one document

With output disabled nothing happens. Otherwise the stages change the text, the renderer turns it
into a stylesheet, and the stylesheet and then its source map are written. The first failure ends
the compile; what has been written by then stays.
-/

namespace StylesheetBuild

structure ArtifactWriter (m : Type → Type) where
  write : Path → String → ExceptT CompileError m Unit

structure Compiler (m : Type → Type) where
  stages : List (Stage m)
  renderer : Renderer m
  writer : ArtifactWriter m

inductive Phase where
  | preprocessing
  | rendering
  | writing
deriving DecidableEq

def Phase.name : Phase → String
  | preprocessing => "Running preprocessors"
  | rendering => "Rendering"
  | writing => "Writing artifacts"

structure CompileReport where
  /-- The stylesheet first; empty if output is disabled. -/
  artifacts : List ArtifactMeta
deriving DecidableEq

def CompileReport.isNoop (r : CompileReport) : Bool :=
  r.artifacts.isEmpty

/-- Receives what happens during a compile. -/
structure Progress (m : Type → Type) where
  started : String → m Unit
  phase : Phase → m Unit
  done : CompileReport → m Unit
  failed : Diagnostic → m Unit

def Progress.silent [Monad m] : Progress m where
  started _ := pure ()
  phase _ := pure ()
  done _ := pure ()
  failed _ := pure ()

/-- A document with the options that apply below its directives. -/
structure CompileRequest where
  source : Path
  content : String
  defaults : Options
  workspaceRoot : Option Path

/-- A request whose directives have been read. -/
structure ResolvedRequest where
  source : Path
  content : String
  options : Options
  workspaceRoot : Option Path

def CompileRequest.resolve (r : CompileRequest) : ResolvedRequest :=
  ⟨r.source, r.content, r.defaults.withDirectives r.content, r.workspaceRoot⟩

section

variable [WorkingDirectory]

namespace SourceMapSettings

/-- The map lies beside the artifact and names sources as seen from there. -/
def forArtifact (source css : Path) (outputSourceFiles : Bool) : SourceMapSettings where
  outputSourceFiles := outputSourceFiles
  basePath := source.directory
  rootPath := css.directory.relative source.directory
  mapDestination := Artifact.sourceMapPath css

end SourceMapSettings

namespace ResolvedRequest

def cssPath (r : ResolvedRequest) : Path :=
  Artifact.path r.options r.source r.source.directory r.workspaceRoot

def sourceMapSettings? (r : ResolvedRequest) : Option SourceMapSettings :=
  (r.options.sourceMap.filter SourceMapOption.isEnabled).map fun s =>
    .forArtifact r.source r.cssPath s.embedsSources

/-- The plugins in the order in which they apply; the text that is rendered stands in for the root
document. -/
def plugins (r : ResolvedRequest) (content : String) : List Plugin :=
  let vendor := (r.options.autoprefixer.filter Autoprefixer.isEnabled).map fun a =>
    Plugin.vendorPrefixes a.browsers
  vendor.toList ++ [.documents (.forRoot r.source content)]

/-- A renderer must not load the root document by itself once stages have changed it. -/
def rendererOptions (r : ResolvedRequest) (changed : Bool) (content : String) :
    RendererOptions where
  rootFileInfo := if changed then none else r.options.rootFileInfo
  relativeUrls := r.options.relativeUrls.getD false
  sourceMap := r.sourceMapSettings?
  plugins := r.plugins content
  extra := r.options.extra

end ResolvedRequest

end

namespace Compiler

def describe (c : Compiler m) : String :=
  "Compiler \x7b preprocessors: " ++ Stage.describe c.stages ++ ", renderer: " ++
    Text.quoted c.renderer.name ++ " \x7d"

variable [WorkingDirectory] [Monad m]

/-- The text that the stages make of the content; without stages there is no such phase. -/
def preprocess (c : Compiler m) (progress : Progress m) (content : String) :
    ExceptT CompileError m String :=
  if c.stages.isEmpty then pure content
  else do
    ExceptT.lift (progress.phase .preprocessing)
    Stage.run c.stages content

def writeArtifact (c : Compiler m) (path : Path) (content : String) :
    ExceptT CompileError m ArtifactMeta := do
  c.writer.write path content
  pure (.ofContent path content)

/-- The map that goes into a file: one that the renderer produced and the options ask for. -/
def mapArtifact? (settings : Option SourceMapSettings) (output : RenderOutput) :
    Option (Path × String) := do
  let settings ← settings
  let map ← output.map
  some (settings.mapDestination, map)

def compileResolved (c : Compiler m) (progress : Progress m) (r : ResolvedRequest) :
    ExceptT CompileError m CompileReport :=
  if r.options.isOutputDisabled then pure ⟨[]⟩
  else do
    let content ← c.preprocess progress r.content
    ExceptT.lift (progress.phase .rendering)
    let options := r.rendererOptions (!c.stages.isEmpty) content
    let output ← c.renderer.render content options
    ExceptT.lift (progress.phase .writing)
    let css ← c.writeArtifact r.cssPath output.css
    match mapArtifact? options.sourceMap output with
    | none => pure ⟨[css]⟩
    | some (path, content) => do
      let map ← c.writeArtifact path content
      pure ⟨[css, map]⟩

def compile (c : Compiler m) (progress : Progress m) (r : CompileRequest) :
    ExceptT CompileError m CompileReport :=
  c.compileResolved progress r.resolve

end Compiler

end StylesheetBuild
