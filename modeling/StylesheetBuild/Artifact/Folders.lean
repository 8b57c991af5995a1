import StylesheetBuild.Path.Names

/-!
# Kept folders

The folders of a source directory below its first `less` folder, and how they are put into an
expanded template: under a folder, or before the file name of a file. A path that ends in a slash
or a backslash is a folder, and so is one without an extension.
-/

namespace StylesheetBuild.Artifact

/-- The name of the folder whose structure is kept. -/
def keptRoot : String := "less"

def foldersBelow (names : List String) : List String :=
  (names.dropWhile (· != keptRoot)).drop 1

def sourceFolders (dir : Path) : List String :=
  foldersBelow (dir.steps.filterMap Component.name?)

/-- The folders to keep, each followed by a slash. -/
def subfolders (dir : Path) : String :=
  "".intercalate ((sourceFolders dir).map (· ++ "/"))

def isSeparator (c : Char) : Bool :=
  c == '/' || c == '\\'

def isFolder (path : List Char) : Bool :=
  path.getLast?.any isSeparator

def hasExtension (path : List Char) : Bool :=
  (Path.ofChars path).extension?.isSome

/-- The text up to and including its last separator, and the rest. -/
def splitLeaf (path : List Char) : List Char × List Char :=
  let leaf := path.reverse.takeWhile (!isSeparator ·)
  ((path.reverse.drop leaf.length).reverse, leaf.reverse)

def insertFolders (path folders : List Char) : List Char :=
  if isFolder path then path ++ folders
  else if !hasExtension path then path ++ '/' :: folders
  else (splitLeaf path).1 ++ folders ++ (splitLeaf path).2

/-- Puts the folders into the path unless there are none. -/
def keepFolders (path folders : List Char) : List Char :=
  if folders.isEmpty then path else insertFolders path folders

/-- A folder gets the file name `name` with `extension`, a path without extension the extension. -/
def completeFile (path name extension : List Char) : List Char :=
  if isFolder path then path ++ name ++ extension
  else if !hasExtension path then path ++ extension
  else path

end StylesheetBuild.Artifact
