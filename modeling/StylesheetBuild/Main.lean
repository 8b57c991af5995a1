import StylesheetBuild.Cli.Run
import StylesheetBuild.Scss.Subset
import StylesheetBuild.Toml.Reader

/-!
# The program

Runs a command on the disk. A misused command line exits with 2, a failed command with 1.
-/

namespace StylesheetBuild.Program

def systemNumber? : IO.Error → Option UInt32
  | .noFileOrDirectory _ n _ | .alreadyExists _ n _ | .permissionDenied _ n _
  | .inappropriateType _ n _ | .invalidArgument _ n _ | .resourceExhausted _ n _ => some n
  | .unsatisfiedConstraints n _ | .hardwareFault n _ | .otherError n _ => some n
  | _ => none

/-- Some operations report the number of a system error with its sign changed. -/
def ioError (e : IO.Error) : IoError :=
  match systemNumber? e with
  | some n => .system n.toInt32.toInt.natAbs
  | none => .worded .other e.toString

def attempt (action : IO α) : ExceptT IoError IO α :=
  ExceptT.mk do
    match ← action.toBaseIO with
    | .ok a => pure (.ok a)
    | .error e => pure (.error (ioError e))

def kind? (p : Path) : IO (Option IO.FS.FileType) := do
  match ← (do (← IO.FS.realPath p.text).metadata : IO _).toBaseIO with
  | .ok data => pure (some data.type)
  | .error _ => pure none

/-- The files of the disk. -/
def disk : FileSystem IO where
  isFile p := do return (← kind? p) == some .file
  isDirectory p := do return (← kind? p) == some .dir
  read p := attempt (IO.FS.readBinFile p.text)
  write p content := attempt (IO.FS.writeFile p.text content)
  createDirectories p := attempt (IO.FS.createDirAll p.text)

def stopwatch : IO (IO String) := do
  let start ← IO.monoMsNow
  pure do return toString ((← IO.monoMsNow) - start)

/-- The directory that the process runs in; a name that is no absolute path is none. -/
def workingDirectory : IO WorkingDirectory := do
  match ← IO.currentDir.toBaseIO with
  | .error e => pure (.lost (ioError e))
  | .ok name =>
    let here : Path := ⟨name.toString⟩
    if h : here.isAbsolute = true ∧ .parent ∉ here.steps then pure (.of here h.1 h.2)
    else pure (.lost .notFound)

def host : IO (Cli.Host IO) := do
  let home ← IO.getEnv "HOME"
  pure
    { files := disk
      home := (home.filter (· ≠ "")).map Path.mk
      engine := Scss.subset
      decode := Toml.parse?
      printLine := IO.println
      noteLine := IO.eprintln
      stopwatch := stopwatch }

def run (words : List String) : IO UInt32 := do
  match Cli.Invocation.ofWords words with
  | .error e =>
    if e.isRequest then
      IO.println e.message
      pure 0
    else
      IO.eprintln ("error: " ++ e.message)
      pure 2
  | .ok invocation =>
    let _here ← workingDirectory
    match ← (invocation.run (← host)).run with
    | .ok () => pure 0
    | .error e =>
      IO.eprintln ("Error: " ++ e.message)
      pure 1

end StylesheetBuild.Program

def main (words : List String) : IO UInt32 :=
  StylesheetBuild.Program.run words
