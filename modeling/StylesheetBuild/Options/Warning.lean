import StylesheetBuild.Options.Basic

/-!
# Options without effect

The folder flags exclude each other: `keepFolderStructure` works only with a path template and
`sameBaseWithCssFolder` only without one. Setting the wrong one is reported and otherwise ignored.
-/

namespace StylesheetBuild

inductive FolderFlag where
  | keepFolderStructure
  | sameBaseWithCssFolder
deriving DecidableEq

namespace FolderFlag

def name : FolderFlag → String
  | keepFolderStructure => "keepFolderStructure"
  | sameBaseWithCssFolder => "sameBaseWithCssFolder"

def isOn : FolderFlag → Options → Bool
  | keepFolderStructure, o => o.keepsFolders
  | sameBaseWithCssFolder, o => o.usesCssFolder

def switchOff : FolderFlag → Options → Options
  | keepFolderStructure, o => { o with keepFolderStructure := some false }
  | sameBaseWithCssFolder, o => { o with sameBaseWithCssFolder := some false }

end FolderFlag

inductive OptionWarning where
  | bothFoldersKeepStructureIgnored
  | bothFoldersSameBaseIgnored
  | keepFolderStructureIgnored
  | sameBaseWithCssFolderIgnored
deriving DecidableEq

namespace OptionWarning

def ignored : OptionWarning → FolderFlag
  | bothFoldersKeepStructureIgnored | keepFolderStructureIgnored => .keepFolderStructure
  | bothFoldersSameBaseIgnored | sameBaseWithCssFolderIgnored => .sameBaseWithCssFolder

def name : OptionWarning → String
  | bothFoldersKeepStructureIgnored => "BothFoldersKeepStructureIgnored"
  | bothFoldersSameBaseIgnored => "BothFoldersSameBaseIgnored"
  | keepFolderStructureIgnored => "KeepFolderStructureIgnored"
  | sameBaseWithCssFolderIgnored => "SameBaseWithCssFolderIgnored"

def message : OptionWarning → String
  | bothFoldersKeepStructureIgnored =>
    "Both 'keepFolderStructure' and 'sameBaseWithCssFolder' are enabled. " ++
      "'outputPath' is NOT a string so 'keepFolderStructure' will be ignored."
  | bothFoldersSameBaseIgnored =>
    "Both 'keepFolderStructure' and 'sameBaseWithCssFolder' are enabled. " ++
      "'outputPath' is NOT true/null so 'sameBaseWithCssFolder' will be ignored."
  | keepFolderStructureIgnored =>
    "'keepFolderStructure' is enabled but 'outputPath' is NOT a string. " ++
      "'keepFolderStructure' will be ignored."
  | sameBaseWithCssFolderIgnored =>
    "'sameBaseWithCssFolder' is enabled but 'outputPath' is NOT true/null. " ++
      "'sameBaseWithCssFolder' will be ignored."

end OptionWarning

/-- At most one warning: each flag has no effect in exactly one of the two cases. -/
def Options.warnings (o : Options) : List OptionWarning :=
  match o.keepsFolders, o.usesCssFolder, o.hasTemplate with
  | true, true, true => [.bothFoldersSameBaseIgnored]
  | true, true, false => [.bothFoldersKeepStructureIgnored]
  | true, false, false => [.keepFolderStructureIgnored]
  | false, true, true => [.sameBaseWithCssFolderIgnored]
  | _, _, _ => []

end StylesheetBuild
