import Std.Data.ExtTreeMap
import StylesheetBuild.Error.Compile
import StylesheetBuild.Value.Basic

/-!
# Stages before rendering

A stage changes the source text before it is rendered. The stages of a compile run in order; each
gets the text that the one before it returned, together with a context of named values that starts
out empty. The first failing stage ends the run.
-/

namespace StylesheetBuild

abbrev StageContext := Std.ExtTreeMap String Value

structure Stage (m : Type → Type) where
  name : String
  process : String → StageContext → ExceptT CompileError m (String × StageContext)

namespace Stage

/-- A stage that has no effects besides its result. -/
def ofFunction [Monad m] (name : String)
    (f : String → StageContext → Except CompileError (String × StageContext)) : Stage m where
  name := name
  process content context := ExceptT.mk (pure (f content context))

def runFrom [Monad m] : List (Stage m) → String → StageContext → ExceptT CompileError m String
  | [], content, _ => pure content
  | stage :: stages, content, context => do
    let (content, context) ← stage.process content context
    runFrom stages content context

def run [Monad m] (stages : List (Stage m)) (content : String) : ExceptT CompileError m String :=
  runFrom stages content ∅

def names (stages : List (Stage m)) : List String :=
  stages.map Stage.name

/-- The stages as they are shown in descriptions. -/
def describe (stages : List (Stage m)) : String :=
  "PreprocessorRegistry \x7b stages: " ++ Text.quotedList (names stages) ++ " \x7d"

end Stage

end StylesheetBuild
