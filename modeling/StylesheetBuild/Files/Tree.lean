import Std.Data.ExtTreeMap
import StylesheetBuild.Files.FileSystem
import StylesheetBuild.Path.Names

/-!
# File trees

A file system as a value: what stands at each place below the root, a place being the list of names
that lead to it. There are no links, so a path is followed one segment at a time, and every segment
needs a directory to be looked up in.
-/

namespace StylesheetBuild

abbrev Place := List String

inductive FileNode where
  | file (content : ByteArray)
  | directory

structure FileTree where
  nodes : Std.ExtTreeMap Place FileNode := ∅

namespace FileTree

def empty : FileTree := {}

def node? (t : FileTree) (place : Place) : Option FileNode :=
  if place.isEmpty then some .directory else t.nodes[place]?

def set (t : FileTree) (place : Place) (node : FileNode) : FileTree :=
  ⟨t.nodes.insert place node⟩

/-- No name is longer than this many bytes. -/
def nameLimit : Nat := 255

/-- One segment further from a directory. -/
def enter (place : Place) (segment : List Char) : Except IoError Place :=
  if segment = [] ∨ segment = ['.'] then .ok place
  else if segment = ['.', '.'] then .ok place.dropLast
  else
    let name := String.ofList segment
    if nameLimit < name.utf8ByteSize then .error .nameTooLong else .ok (place ++ [name])

def follow (t : FileTree) : Place → List (List Char) → Except IoError Place
  | place, [] => .ok place
  | place, segment :: rest =>
    match t.node? place with
    | none => .error .notFound
    | some (.file _) => .error .notADirectory
    | some .directory =>
      match enter place segment with
      | .error e => .error e
      | .ok next => t.follow next rest

def startOf (cwd : Place) (p : Path) : Place :=
  if p.isAbsolute then [] else cwd

/-- No path is longer than this many bytes. -/
def pathLimit : Nat := 4095

/-- Paths that no operation accepts, whatever stands there. -/
def checkPath (p : Path) : Except IoError Unit :=
  if p.chars.contains '\x00' then .error .nulInPath
  else if p.isEmpty then .error .notFound
  else if pathLimit < p.text.utf8ByteSize then .error .nameTooLong
  else .ok ()

/-- The place that an existing path leads to, and what stands there. -/
def lookup (t : FileTree) (cwd : Place) (p : Path) : Except IoError (Place × FileNode) := do
  checkPath p
  let place ← t.follow (startOf cwd p) p.segments
  match t.node? place with
  | some node => pure (place, node)
  | none => throw .notFound

/-- The segments of a path without empty ones at its end, and whether there were any. -/
def trimSegments (p : Path) : List (List Char) × Bool :=
  let kept := (p.segments.reverse.dropWhile List.isEmpty).reverse
  (kept, kept.length < p.segments.length)

/-- The directory that a new entry would go into, and its name; nothing if the path ends in no
name. -/
def target (t : FileTree) (cwd : Place) (p : Path) :
    Except IoError (Option (Place × List Char)) := do
  checkPath p
  let segments := (trimSegments p).1
  let dir ← t.follow (startOf cwd p) segments.dropLast
  let last := segments.getLastD []
  match t.node? dir with
  | none => throw .notFound
  | some (.file _) => throw .notADirectory
  | some .directory =>
    if last = [] ∨ last = ['.'] ∨ last = ['.', '.'] then pure none
    else pure (some (dir, last))

def isFile (t : FileTree) (cwd : Place) (p : Path) : Bool :=
  match t.lookup cwd p with
  | .ok (_, .file _) => true
  | _ => false

def isDirectory (t : FileTree) (cwd : Place) (p : Path) : Bool :=
  match t.lookup cwd p with
  | .ok (_, .directory) => true
  | _ => false

def read (t : FileTree) (cwd : Place) (p : Path) : Except IoError ByteArray :=
  match t.lookup cwd p with
  | .ok (_, .file content) => .ok content
  | .ok (_, .directory) => .error .isADirectory
  | .error e => .error e

/-- A path that ends in a slash or in no name is a directory, whatever stands there. -/
def write (t : FileTree) (cwd : Place) (p : Path) (content : ByteArray) :
    Except IoError FileTree := do
  match ← t.target cwd p with
  | none => throw .isADirectory
  | some (dir, name) =>
    if (trimSegments p).2 then throw .isADirectory
    let place ← enter dir name
    match t.node? place with
    | some .directory => throw .isADirectory
    | _ => pure (t.set place (.file content))

def createDirectory (t : FileTree) (cwd : Place) (p : Path) : Except IoError FileTree := do
  match ← t.target cwd p with
  | none => throw .fileExists
  | some (dir, name) =>
    let place ← enter dir name
    if (t.node? place).isSome then throw .fileExists else pure (t.set place .directory)

/-- What an operation answers, with the tree that it leaves behind. -/
abbrev Outcome := Except IoError Unit × FileTree

/-- The outcome of a change that is made as a whole or not at all. -/
def changed (t : FileTree) : Except IoError FileTree → Outcome
  | .ok t' => (.ok (), t')
  | .error e => (.error e, t)

/-- Makes a directory unless it is there already. -/
def ensureDirectory (t : FileTree) (cwd : Place) (p : Path) : Outcome :=
  if t.isDirectory cwd p then (.ok (), t) else t.changed (t.createDirectory cwd p)

/-- Makes the first of the directories, after those that follow it in the list if it needs them.
The ones made before a failure stay. -/
def createAll (t : FileTree) (cwd : Place) : List Path → Outcome
  | [] => (.ok (), t)
  | p :: above =>
    if p.isEmpty || p.parent?.isNone then (.ok (), t)
    else match t.ensureDirectory cwd p with
      | (.ok (), t) => (.ok (), t)
      | (.error e, t) =>
        if e.kind = .notFound then
          match t.createAll cwd above with
          | (.ok (), t) => t.ensureDirectory cwd p
          | (.error e, t) => (.error e, t)
        else (.error e, t)

def createDirectories (t : FileTree) (cwd : Place) (p : Path) : Outcome :=
  t.createAll cwd p.ancestors

/-- A file tree in the state of a monad as a file system, with relative paths read from `cwd`. -/
def fileSystem (cwd : Place) : FileSystem (StateM FileTree) where
  isFile p := fun t => (t.isFile cwd p, t)
  isDirectory p := fun t => (t.isDirectory cwd p, t)
  read p := ExceptT.mk fun t => (t.read cwd p, t)
  write p content := ExceptT.mk fun t => t.changed (t.write cwd p content.toUTF8)
  createDirectories p := ExceptT.mk fun t => t.createDirectories cwd p

end FileTree

end StylesheetBuild
