import StylesheetBuild.Path.Names
import StylesheetBuild.Path.Order
import StylesheetBuild.Scss.Evaluation

/-!
# Imports

An import stands for the statements of the file that it names. The file is looked for beside the
importing one and then on the load paths, and its whole text is read before any of it is evaluated.
A file cannot be imported while it is being evaluated itself.
-/

namespace StylesheetBuild.Scss

/-- A text and the name that errors in it are reported under. -/
structure SourceFile where
  name : String
  text : String
  dialect : Dialect

/-- Extensions of the files that can be imported, the preferred one first. -/
def extensions : List String := ["scss", cssExtension]

/-- Longer extensions come first: they mark the files that are only for imports. -/
def searchedExtensions : List String :=
  extensions.map ("import." ++ ·) ++ extensions

/-- The file itself and the partial one, whose name starts with an underscore. -/
def withPartial (p : Path) : List Path :=
  [p, p.directory.joinText ("_" ++ p.fileName?.getD "..")]

def searchedFiles (p : Path) : List Path :=
  searchedExtensions.flatMap fun extension => withPartial (p.withExtension extension)

/-- A directory is imported through the index file in it. -/
def indexName : String := "index"

section

variable {m : Type → Type} [Monad m]

/-- The files that may be meant by a path without extension. Those in a directory come last. -/
def filesAt (s : EngineOptions m) (p : Path) : m (List Path) := do
  let isDirectory ← s.files.isDirectory p
  pure (searchedFiles p ++ if isDirectory then searchedFiles (p.joinText indexName) else [])

/-- The files that an import may mean. An extension in the import has to be that of the file, which
is beside the importing one. Without it the load paths come next. -/
def importCandidates (s : EngineOptions m) (importing : Path) (name : String) : m (List Path) := do
  let beside := importing.directory.joinText name
  if beside.extension?.any extensions.contains then pure (withPartial beside)
  else
    let places := beside :: s.loadPaths.map (·.joinText name)
    return (← places.mapM (filesAt s)).flatten

def findImport? (s : EngineOptions m) (importing : Path) (name : String) : m (Option Path) := do
  (← importCandidates s importing name).findM? s.files.isFile

/-- Two hexadecimal digits or one, without leading zeros. -/
def byteText (b : UInt8) : String :=
  String.ofList ((Nat.toDigits 16 b.toNat).map Char.toUpper)

/-- The first byte of the file is reported. -/
def refuseBytes (bytes : ByteArray) : Failure :=
  .notText ("Invalid UTF-8 character \"\\x" ++ byteText (bytes.toList.headD 0) ++ "\"")

def readSource (files : SourceFiles m) (p : Path) : ExceptT Failure m SourceFile := do
  let bytes ← ExceptT.adapt Failure.unreadable (files.read p)
  match String.fromUTF8? bytes with
  | some text => pure ⟨p.text, text, .ofPath p⟩
  | none => throw (refuseBytes bytes)

/-- Chains of imports are given up at this length. -/
def importLimit : Nat := 10000

def alreadyLoading (p : Position) : Refusal :=
  ⟨"This file is already being loaded.", p⟩

/-- Finds an imported file and goes on with it, unless it is one of those being evaluated. -/
def importFile (s : EngineOptions m) (loading : List Path.Key)
    (proceed : List Selector → SourceFile → Evaluator m (List Node)) (importing : String) :
    Importer m :=
  fun outer name position => do
    match ← StateT.lift (ExceptT.lift (findImport? s ⟨importing⟩ name)) with
    | none => refuse importing ⟨"Can't find stylesheet to import.", position⟩
    | some p =>
      if loading.contains p.key then refuse importing (alreadyLoading position)
      else do
        let file ← StateT.lift (readSource s.files p)
        proceed outer file

def refuseImport (importing : String) : Importer m :=
  fun _ _ position => refuse importing (alreadyLoading position)

def readStatements (file : SourceFile) : Evaluator m (List Statement) :=
  match parse file.dialect file.text with
  | .ok statements => pure statements
  | .error r => refuse file.name r

/-- The files in `loading` are those whose imports led to this one, innermost first. -/
def evaluateFile (s : EngineOptions m) :
    Nat → List Path.Key → List Selector → SourceFile → Evaluator m (List Node)
  | 0, _, outer, file => do
    evaluateAll file.name (refuseImport file.name) outer (← readStatements file)
  | depth + 1, loading, outer, file => do
    let loading := Path.key ⟨file.name⟩ :: loading
    let importer := importFile s loading (evaluateFile s depth loading) file.name
    evaluateAll file.name importer outer (← readStatements file)

/-- The stylesheet of a root text. -/
def compileSource (s : EngineOptions m) (root : SourceFile) : ExceptT Failure m String := do
  let nodes ← (evaluateFile s importLimit [] [] root).run' {}
  pure (s.style.render nodes)

end

end StylesheetBuild.Scss
