import StylesheetBuild.Files.Overlay
import StylesheetBuild.Scss.Engine

/-!
# The bundled renderer

Renders by an engine, without source maps. Where the options say how to load the root document, it
is compiled from its path through the documents in memory, else the given text is the root document.
Errors in the root document are attributed to its path however it was read.
-/

namespace StylesheetBuild.Scss

def compressFlag : String := "compress"

def styleOf (o : RendererOptions) : Style :=
  if o.flag compressFlag then .compressed else .expanded

def loadPath? (o : RendererOptions) : Option Path :=
  (o.rootFileInfo.map (·.currentDirectory)).or (o.documents?.bind (·.rootDirectory?))

/-- The document that errors in a text without a path are attributed to. -/
def rootDocument? (o : RendererOptions) : Option Path :=
  (o.rootFileInfo.map (·.path)).or (o.documents?.bind (·.root))

def unrecognisedMessage : String := "grass failed with an unrecognised error"

/-- Lines are reported counted from one and columns from zero. -/
def Failure.toCompileError (root : Option Path) : Failure → CompileError
  | refused r file =>
    let filename := if file = unnamedSource then root.map Path.text else some file
    .render r.message (some (r.position.line + 1)) (some r.position.column) filename
  | unreadable cause => .filesystem (root.getD .empty) cause
  | notText message => .unknown message
  | unrecognised => .unknown unrecognisedMessage

variable {m : Type → Type} [Monad m]

def sourceFiles (fs : FileSystem m) (documents : Option DocumentSet) : SourceFiles m :=
  let overlay : Overlay m := ⟨documents, fs⟩
  ⟨overlay.isFile, overlay.isDirectory, overlay.read⟩

def engineOptions (fs : FileSystem m) (o : RendererOptions) : EngineOptions m where
  files := sourceFiles fs o.documents?
  loadPaths := (loadPath? o).toList
  style := styleOf o

def renderText (e : Engine m) (fs : FileSystem m) (content : String) (o : RendererOptions) :
    ExceptT Failure m String :=
  match o.rootFileInfo with
  | some info => e.compileFile (engineOptions fs o) info.path
  | none => e.compileText (engineOptions fs o) content

/-- The answer of the renderer to what the engine makes of a document. -/
def answer (root : Option Path) (rendered : ExceptT Failure m String) :
    ExceptT CompileError m RenderOutput :=
  ExceptT.mk do
    let result ← rendered.run
    pure ((result.map fun css => ⟨css, none⟩).mapError (Failure.toCompileError root))

def renderer (e : Engine m) (fs : FileSystem m) : Renderer m where
  name := "grass"
  render content o := answer (rootDocument? o) (renderText e fs content o)

end StylesheetBuild.Scss
