import StylesheetBuild.Directive.Basic
import StylesheetBuild.Options.Warning

/-!
# Effective options

The options of a document come in three layers: built-in defaults for its path, the settings that
apply to it, and the directives on its first line. Higher layers win key by key.
-/

namespace StylesheetBuild

structure Document where
  path : Path
  content : String

/-- Settings that apply to a document, with the directory of the workspace file if there is one. -/
structure ScopedSettings where
  options : Options := {}
  workspaceRoot : Option Path := none

structure ResolvedOptions where
  options : Options
  workspaceRoot : Option Path
  warnings : List OptionWarning

namespace Options

/-- The built-in layer of a document. -/
def defaultsFor (document : Path) : Options where
  rootFileInfo := some (.ofPath document)
  relativeUrls := some false

/-- The defaults under the settings of a document. -/
def underSettings (document : Path) : Option ScopedSettings → Options × Option Path
  | none => (defaultsFor document, none)
  | some s => ((defaultsFor document).merge s.options, s.workspaceRoot)

end Options

def Document.resolve (d : Document) (settings : Option ScopedSettings) : ResolvedOptions :=
  let (layer, workspaceRoot) := Options.underSettings d.path settings
  let options := layer.withDirectives d.content
  ⟨options, workspaceRoot, options.warnings⟩

end StylesheetBuild
