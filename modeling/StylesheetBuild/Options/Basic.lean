import Std.Data.ExtTreeMap
import StylesheetBuild.Path.Names
import StylesheetBuild.Text.Blank
import StylesheetBuild.Value.Basic

/-!
# Compile options

A layer of options leaves every option unset that it says nothing about. Layers are stacked with
`Options.merge`, and the result of stacking all of them is again a layer, the effective one. Keys
that are not options of the build itself are kept in `extra` for the renderer.
-/

namespace StylesheetBuild

/-- Where the stylesheet goes: nowhere, beside its source, or where a path template says. -/
inductive OutputPath where
  | disabled
  | besideSource
  | template (text : String)
deriving DecidableEq

/-- Whether to build a source map, as a flag or as a table with a setting of its own. -/
inductive SourceMapOption where
  | flag (on : Bool)
  | table (outputSourceFiles : Option Bool)
deriving DecidableEq

/-- Browser targets, as a list or as one string. -/
inductive Autoprefixer where
  | list (items : List String)
  | single (text : String)
deriving DecidableEq

/-- What the renderer needs to load the root document by itself. -/
structure RootFileInfo where
  filename : String
  currentDirectory : Path
  entryPath : String
  relativeUrls : Bool
deriving DecidableEq

abbrev ExtraOptions := Std.ExtTreeMap String Value

structure Options where
  outputPath : Option OutputPath := none
  outputExtension : Option String := none
  sameBaseWithCssFolder : Option Bool := none
  keepFolderStructure : Option Bool := none
  sourceMap : Option SourceMapOption := none
  autoprefixer : Option Autoprefixer := none
  relativeUrls : Option Bool := none
  rootFileInfo : Option RootFileInfo := none
  extra : ExtraOptions := ∅

def defaultExtension : String := ".css"

def dropDots (cs : List Char) : List Char :=
  cs.dropWhile (· == '.')

namespace SourceMapOption

/-- A table enables the map, even an empty one. -/
def isEnabled : SourceMapOption → Bool
  | flag on => on
  | table _ => true

def embedsSources : SourceMapOption → Bool
  | flag _ => false
  | table outputSourceFiles => outputSourceFiles.getD false

end SourceMapOption

namespace Autoprefixer

def isEnabled : Autoprefixer → Bool
  | list _ => true
  | single s => !s.isEmpty

def isSeparator (c : Char) : Bool :=
  c == ',' || c == ';'

/-- The targets without the blanks around them; a string is cut at commas and semicolons. -/
def browsers : Autoprefixer → List String
  | list items => items.map Text.trimmed
  | single s => (s.toList.splitOnP isSeparator).map fun b => String.ofList (Text.trim b)

end Autoprefixer

namespace RootFileInfo

def ofPath (p : Path) : RootFileInfo where
  filename := p.fileName?.getD ""
  currentDirectory := p.directory
  entryPath := p.directory.text ++ "/"
  relativeUrls := false

def path (info : RootFileInfo) : Path :=
  info.currentDirectory.joinText info.filename

end RootFileInfo

namespace Options

/-- Sets nothing. -/
def empty : Options := {}

/-- Every key that `higher` sets replaces the key of `lower`; nested tables are not merged. -/
def merge (lower higher : Options) : Options where
  outputPath := higher.outputPath.or lower.outputPath
  outputExtension := higher.outputExtension.or lower.outputExtension
  sameBaseWithCssFolder := higher.sameBaseWithCssFolder.or lower.sameBaseWithCssFolder
  keepFolderStructure := higher.keepFolderStructure.or lower.keepFolderStructure
  sourceMap := higher.sourceMap.or lower.sourceMap
  autoprefixer := higher.autoprefixer.or lower.autoprefixer
  relativeUrls := higher.relativeUrls.or lower.relativeUrls
  rootFileInfo := higher.rootFileInfo.or lower.rootFileInfo
  extra := lower.extra ∪ higher.extra

theorem getElem?_extra_merge (lower higher : Options) (key : String) :
    (lower.merge higher).extra[key]? = higher.extra[key]?.or lower.extra[key]? := by
  simp [merge, Std.ExtTreeMap.getElem?_union]

def isOutputDisabled (o : Options) : Bool :=
  o.outputPath == some .disabled

def hasTemplate (o : Options) : Bool :=
  match o.outputPath with
  | some (.template _) => true
  | _ => false

def keepsFolders (o : Options) : Bool :=
  o.keepFolderStructure.getD false

def usesCssFolder (o : Options) : Bool :=
  o.sameBaseWithCssFolder.getD false

def sourceMapEnabled (o : Options) : Bool :=
  o.sourceMap.any SourceMapOption.isEnabled

/-- The extension without its leading dots, for display; an empty one shows as the default. -/
def extensionLabel (o : Options) : String :=
  match (o.outputExtension.map fun e => dropDots e.toList).getD [] with
  | [] => String.ofList (dropDots defaultExtension.toList)
  | label => String.ofList label

/-- The extension of the stylesheet: none if set empty, else with exactly one leading dot. -/
def artifactExtension (o : Options) : String :=
  match o.outputExtension with
  | none => defaultExtension
  | some e => if e.isEmpty then "" else String.ofList ('.' :: dropDots e.toList)

end Options

end StylesheetBuild
