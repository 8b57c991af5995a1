import StylesheetBuild.Path.Basic
import StylesheetBuild.Text.Substitution

/-!
# Path templates

A template names the artifact with placeholders: the file name of the source without its extension,
the extension of the artifact, and the workspace folder. The placeholders are replaced one after
another, each in the text that the one before has left.
-/

namespace StylesheetBuild.Artifact

structure TemplateValues where
  name : String
  extension : String
  workspaceRoot : Option Path

/-- The placeholder of the source name, replaced everywhere. -/
def namePlaceholder : List Char := "\x7bname\x7d".toList

/-- The placeholder of the artifact extension, replaced everywhere. -/
def extensionPlaceholder : List Char := "\x7bext\x7d".toList

/-- The placeholder of the source name that counts once. -/
def firstPlaceholder : List Char := "$1".toList

/-- The placeholder of the artifact extension that counts once. -/
def secondPlaceholder : List Char := "$2".toList

/-- The placeholders of the workspace folder. -/
def workspacePlaceholders : List (List Char) :=
  ["$\x7bworkspaceFolder\x7d".toList, "$\x7bworkspaceRoot\x7d".toList]

def expandNames (name extension template : List Char) : List Char :=
  Text.replaceFirst secondPlaceholder extension
    (Text.replaceFirst firstPlaceholder name
      (Text.replaceAll extensionPlaceholder extension
        (Text.replaceAll namePlaceholder name template)))

/-- Without a known workspace folder its placeholders stay as they are written. -/
def expandWorkspace (root : Option Path) (template : List Char) : List Char :=
  match root with
  | none => template
  | some root => workspacePlaceholders.foldl (fun t p => Text.replaceAll p root.chars t) template

def TemplateValues.expandChars (v : TemplateValues) (template : List Char) : List Char :=
  expandWorkspace v.workspaceRoot (expandNames v.name.toList v.extension.toList template)

def TemplateValues.expand (v : TemplateValues) (template : String) : String :=
  String.ofList (v.expandChars template.toList)

end StylesheetBuild.Artifact
