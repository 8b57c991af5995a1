import StylesheetBuild.Options.Codec
import StylesheetBuild.Toml.Printer

/-!
# Settings files

A settings file is a document whose table `compile` is a layer of options; everything else in it is
ignored, and a file without that table sets nothing. What document a text spells is left to a
`Decoder`, of which `Toml.parse?` is the one that the program uses. A file may hold numbers that JSON
cannot spell: an extra option keeps null in their place, and for a known key they have the wrong
shape.
-/

namespace StylesheetBuild.Settings

def tableKey : String := "compile"

/-- What an entry of the table says as a field of an options layer. A root file given as a list may
have more items than it needs. -/
def layerField : String × Value → String × Value
  | ("rootFileInfo", .arr items) => ("rootFileInfo", .arr (items.take RootFileInfo.fieldCount))
  | (key, v) => (key, if Options.knownKeys.contains key then v else v.spellable)

def ofValue? : Value → Option Options
  | .obj fields =>
    match Value.field? fields tableKey with
    | none => some .empty
    | some (.obj entries) => Options.ofValue? (.obj (entries.map layerField))
    | some _ => none
  | _ => none

/-- The value that a text spells, if it spells one. -/
abbrev Decoder := String → Option Value

def parse? (decode : Decoder) (text : String) : Option Options :=
  (decode text).bind ofValue?

/-- Nothing if the options hold a null, which TOML cannot spell. -/
def render? (o : Options) : Option String :=
  Toml.render? [(tableKey, o.toValue)]

/-- Why options with a null are not written. -/
def unwritableMessage : String := "unsupported unit type"

/-- The options of a new settings file. -/
def initial : Options where
  outputPath := some .besideSource
  outputExtension := some defaultExtension
  sameBaseWithCssFolder := some false
  keepFolderStructure := some false
  sourceMap := some (.flag false)

end StylesheetBuild.Settings
