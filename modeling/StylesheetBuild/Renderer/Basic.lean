import StylesheetBuild.Error.Compile
import StylesheetBuild.Options.Basic
import StylesheetBuild.Path.Order

/-!
# Renderers

A renderer turns source text into a stylesheet, and possibly a source map. Besides the text it gets
options made for each compile: where the root document comes from, how to build the source map,
which plugins to apply, and the extra options of the configuration.
-/

namespace StylesheetBuild

structure RenderOutput where
  css : String
  map : Option String
deriving DecidableEq

structure SourceMapSettings where
  outputSourceFiles : Bool
  /-- The directory of the source. -/
  basePath : Path
  /-- The source directory as seen from the directory of the artifact. -/
  rootPath : Path
  mapDestination : Path
deriving DecidableEq

/-- Documents in memory, which a renderer prefers to files. -/
structure DocumentSet where
  documents : Std.ExtTreeMap Path.Key String := ∅
  root : Option Path := none

namespace DocumentSet

def empty : DocumentSet := {}

def insert (d : DocumentSet) (path : Path) (content : String) : DocumentSet :=
  { d with documents := d.documents.insert path.key content }

def forRoot (path : Path) (content : String) : DocumentSet where
  documents := (∅ : Std.ExtTreeMap Path.Key String).insert path.key content
  root := some path

def get? (d : DocumentSet) (path : Path) : Option String :=
  d.documents[path.key]?

theorem get?_insert (d : DocumentSet) (path other : Path) (content : String) :
    (d.insert path content).get? other =
      if path.key = other.key then some content else d.get? other := by
  simp [get?, insert, Std.ExtTreeMap.getElem?_insert]

theorem get?_forRoot (path other : Path) (content : String) :
    (forRoot path content).get? other = if path.key = other.key then some content else none := by
  simp [get?, forRoot, Std.ExtTreeMap.getElem?_insert]

def contains (d : DocumentSet) (path : Path) : Bool :=
  d.documents.contains path.key

/-- The directory that imports of the root document start from. -/
def rootDirectory? (d : DocumentSet) : Option Path :=
  d.root.bind Path.parent?

end DocumentSet

inductive Plugin where
  | vendorPrefixes (browsers : List String)
  | documents (set : DocumentSet)

structure RendererOptions where
  /-- Present when the renderer may load the root document by itself. -/
  rootFileInfo : Option RootFileInfo := none
  relativeUrls : Bool := false
  sourceMap : Option SourceMapSettings := none
  plugins : List Plugin := []
  extra : ExtraOptions := ∅

namespace RendererOptions

/-- The first set of documents among the plugins. -/
def documents? (o : RendererOptions) : Option DocumentSet :=
  o.plugins.findSome? fun
    | .documents set => some set
    | .vendorPrefixes _ => none

/-- The browser targets of the first plugin that has some. -/
def browsers? (o : RendererOptions) : Option (List String) :=
  o.plugins.findSome? fun
    | .vendorPrefixes browsers => some browsers
    | .documents _ => none

/-- An extra option counts as set only if it is `true`. -/
def flag (o : RendererOptions) (key : String) : Bool :=
  ((o.extra[key]?).bind Value.bool?).getD false

end RendererOptions

structure Renderer (m : Type → Type) where
  name : String
  render : String → RendererOptions → ExceptT CompileError m RenderOutput

end StylesheetBuild
