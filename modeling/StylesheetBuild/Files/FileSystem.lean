import StylesheetBuild.Compile.Pipeline
import StylesheetBuild.Error.Io
import StylesheetBuild.Path.Names

/-!
# File systems

The few operations on files that a build needs, over any monad: the program runs them on the disk,
and `FileTree` runs them on a value.
-/

namespace StylesheetBuild

structure FileSystem (m : Type → Type) where
  isFile : Path → m Bool
  isDirectory : Path → m Bool
  read : Path → ExceptT IoError m ByteArray
  /-- Replaces the content of a file or makes a new one in an existing directory. -/
  write : Path → String → ExceptT IoError m Unit
  /-- Makes a directory and those above it; one that is there already is kept. -/
  createDirectories : Path → ExceptT IoError m Unit

namespace FileSystem

/-- The same files, used from a monad that can do more. -/
def lift {m n : Type → Type} [MonadLift m n] (fs : FileSystem m) : FileSystem n where
  isFile p := liftM (fs.isFile p)
  isDirectory p := liftM (fs.isDirectory p)
  read p := ExceptT.mk (liftM (fs.read p).run)
  write p content := ExceptT.mk (liftM (fs.write p content).run)
  createDirectories p := ExceptT.mk (liftM (fs.createDirectories p).run)

variable [Monad m]

def holds (fs : FileSystem m) (p : Path) : m Bool := do
  if ← fs.isFile p then pure true else fs.isDirectory p

def textOfBytes (bytes : ByteArray) : Except IoError String :=
  match String.fromUTF8? bytes with
  | some text => .ok text
  | none => .error .notText

def readText (fs : FileSystem m) (p : Path) : ExceptT IoError m String := do
  let bytes ← fs.read p
  ExceptT.mk (pure (textOfBytes bytes))

def failingAt (p : Path) (action : ExceptT IoError m α) : ExceptT CompileError m α :=
  ExceptT.mk do return (← action.run).mapError (.filesystem p)

/-- Writes artifacts into files and makes their directories as needed. -/
def artifactWriter (fs : FileSystem m) : ArtifactWriter m where
  write p content := do
    match p.parent? with
    | some dir => failingAt dir (fs.createDirectories dir)
    | none => pure ()
    failingAt p (fs.write p content)

end FileSystem

end StylesheetBuild
