import StylesheetBuild.Files.FileSystem
import StylesheetBuild.Renderer.Basic

/-!
# Documents over files

What a renderer reads through: a document in memory hides the file at its path, and everything else
comes from the file system. Directories come from the file system alone.
-/

namespace StylesheetBuild

structure Overlay (m : Type → Type) where
  documents : Option DocumentSet
  files : FileSystem m

namespace Overlay

def document? (o : Overlay m) (p : Path) : Option String :=
  o.documents.bind (·.get? p)

def root? (o : Overlay m) : Option Path :=
  o.documents.bind (·.root)

def describe (o : Overlay m) : String :=
  let root := match o.root? with
    | none => "None"
    | some p => "Some(" ++ Text.quoted p.text ++ ")"
  "OverlayFs \x7b root: " ++ root ++ " \x7d"

variable [Monad m]

def isFile (o : Overlay m) (p : Path) : m Bool :=
  if (o.document? p).isSome then pure true else o.files.isFile p

def isDirectory (o : Overlay m) (p : Path) : m Bool :=
  o.files.isDirectory p

def read (o : Overlay m) (p : Path) : ExceptT IoError m ByteArray :=
  match o.document? p with
  | some content => pure content.toUTF8
  | none => o.files.read p

end Overlay

end StylesheetBuild
