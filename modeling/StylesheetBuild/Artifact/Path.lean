import StylesheetBuild.Artifact.Folders
import StylesheetBuild.Artifact.Template
import StylesheetBuild.Options.Basic
import StylesheetBuild.Path.Resolve

/-!
# Where artifacts go

The absolute path of the stylesheet that a source is compiled to, and of the source map beside it.
Both depend on nothing but the options and the spelling of the source path.
-/

namespace StylesheetBuild.Artifact

/-- The folder for artifacts that `sameBaseWithCssFolder` asks for. -/
def cssFolder : String := "css"

def sourceStem (source : Path) : String :=
  source.stem?.getD ""

/-- The place that a template stands for, relative to the source directory. -/
def placeOfTemplate (o : Options) (template : String) (source sourceDir : Path)
    (workspaceRoot : Option Path) : List Char :=
  let values : TemplateValues := ⟨sourceStem source, o.artifactExtension, workspaceRoot⟩
  let expanded := values.expandChars template.toList
  let folders := (subfolders sourceDir).toList
  let placed := if o.keepsFolders then keepFolders expanded folders else expanded
  completeFile placed values.name.toList values.extension.toList

/-- Without a template the artifact lies beside its source, or in a folder beside it. A disabled
output has no artifact and is treated like an unset one. -/
def path [WorkingDirectory] (o : Options) (source sourceDir : Path) (workspaceRoot : Option Path) :
    Path :=
  match o.outputPath with
  | some (.template template) =>
    sourceDir.resolve (.ofChars (placeOfTemplate o template source sourceDir workspaceRoot))
  | _ =>
    let dir := if o.usesCssFolder then sourceDir.joinText cssFolder else sourceDir
    dir.resolve ⟨sourceStem source ++ o.artifactExtension⟩

/-- The path of the artifact with `.map` after it. -/
def sourceMapPath (artifact : Path) : Path :=
  ⟨artifact.text ++ ".map"⟩

end StylesheetBuild.Artifact
