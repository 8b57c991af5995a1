import StylesheetBuild.Options.Basic

/-!
# Options as values

Reading a layer from a value and writing it back. A known key holding null is unset, one of the
wrong shape makes the whole layer unreadable, and every other key is an extra option with any value.
The tables of `sourceMap` and `rootFileInfo` may also be given as a list of their fields in order.
-/

namespace StylesheetBuild

/-- Null is an unset option; anything else has to be readable. -/
def Value.optional? (read? : Value → Option α) : Value → Option (Option α)
  | .null => some none
  | v => (read? v).map some

namespace OutputPath

def ofValue? : Value → Option OutputPath
  | .bool on => some (if on then besideSource else disabled)
  | .str s => some (template s)
  | _ => none

def toValue : OutputPath → Value
  | disabled => .bool false
  | besideSource => .bool true
  | template s => .str s

end OutputPath

namespace SourceMapOption

def ofValue? : Value → Option SourceMapOption
  | .bool on => some (flag on)
  | .obj fields =>
    (((Value.field? fields "outputSourceFiles").getD .null).optional? Value.bool?).map table
  | .arr [] => some (table none)
  | .arr [v] => (v.optional? Value.bool?).map table
  | _ => none

def toValue : SourceMapOption → Value
  | flag on => .bool on
  | table outputSourceFiles =>
    .obj (outputSourceFiles.map fun b => ("outputSourceFiles", .bool b)).toList

end SourceMapOption

namespace Autoprefixer

def ofValue? : Value → Option Autoprefixer
  | .str s => some (single s)
  | .arr items => (items.mapM Value.str?).map list
  | _ => none

def toValue : Autoprefixer → Value
  | list items => .arr (items.map .str)
  | single s => .str s

end Autoprefixer

namespace RootFileInfo

def fieldCount : Nat := 4

def ofParts? : Value → Value → Value → Value → Option RootFileInfo
  | .str filename, .str directory, .str entryPath, .bool relativeUrls =>
    some ⟨filename, ⟨directory⟩, entryPath, relativeUrls⟩
  | _, _, _, _ => none

def ofValue? : Value → Option RootFileInfo
  | .obj fields => do
    ofParts? (← Value.field? fields "filename") (← Value.field? fields "currentDirectory")
      (← Value.field? fields "entryPath") (← Value.field? fields "relativeUrls")
  | .arr [a, b, c, d] => ofParts? a b c d
  | _ => none

def toValue (info : RootFileInfo) : Value :=
  .obj [("filename", .str info.filename), ("currentDirectory", .str info.currentDirectory.text),
    ("entryPath", .str info.entryPath), ("relativeUrls", .bool info.relativeUrls)]

end RootFileInfo

namespace Options

/-- The keys that are options of the build itself, in the order in which they are written. -/
def knownKeys : List String :=
  ["outputPath", "outputExtension", "sameBaseWithCssFolder", "keepFolderStructure", "sourceMap",
   "autoprefixer", "relativeUrls", "rootFileInfo"]

/-- The option under a known key; a missing key is an unset option. -/
def known? (fields : List (String × Value)) (key : String) (read? : Value → Option α) :
    Option (Option α) :=
  ((Value.field? fields key).getD .null).optional? read?

def extraFields (fields : List (String × Value)) : List (String × Value) :=
  fields.filter fun f => !knownKeys.contains f.1

def ofFields? (fields : List (String × Value)) : Option Options := do
  return {
    outputPath := ← known? fields "outputPath" OutputPath.ofValue?
    outputExtension := ← known? fields "outputExtension" Value.str?
    sameBaseWithCssFolder := ← known? fields "sameBaseWithCssFolder" Value.bool?
    keepFolderStructure := ← known? fields "keepFolderStructure" Value.bool?
    sourceMap := ← known? fields "sourceMap" SourceMapOption.ofValue?
    autoprefixer := ← known? fields "autoprefixer" Autoprefixer.ofValue?
    relativeUrls := ← known? fields "relativeUrls" Value.bool?
    rootFileInfo := ← known? fields "rootFileInfo" RootFileInfo.ofValue?
    extra := Std.ExtTreeMap.ofList (extraFields fields) }

def ofValue? : Value → Option Options
  | .obj fields => ofFields? fields
  | _ => none

def knownField (key : String) (toValue : α → Value) (option : Option α) : List (String × Value) :=
  (option.map fun a => (key, toValue a)).toList

/-- The set options: the known ones first, then the extra ones in ascending order of their keys. -/
def toFields (o : Options) : List (String × Value) :=
  knownField "outputPath" OutputPath.toValue o.outputPath ++
  knownField "outputExtension" Value.str o.outputExtension ++
  knownField "sameBaseWithCssFolder" Value.bool o.sameBaseWithCssFolder ++
  knownField "keepFolderStructure" Value.bool o.keepFolderStructure ++
  knownField "sourceMap" SourceMapOption.toValue o.sourceMap ++
  knownField "autoprefixer" Autoprefixer.toValue o.autoprefixer ++
  knownField "relativeUrls" Value.bool o.relativeUrls ++
  knownField "rootFileInfo" RootFileInfo.toValue o.rootFileInfo ++
  o.extra.toList

def toValue (o : Options) : Value :=
  .obj o.toFields

end Options

end StylesheetBuild
