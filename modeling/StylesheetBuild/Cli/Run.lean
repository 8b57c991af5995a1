import StylesheetBuild.Cli.Compile
import StylesheetBuild.Cli.Config

/-!
# Running a command
-/

namespace StylesheetBuild.Cli

def Invocation.run {m : Type → Type} [Monad m] [WorkingDirectory] (h : Host m) :
    Invocation → ExceptT CommandError m Unit
  | compile arguments => compileFiles h arguments
  | initSettings => Cli.initSettings h
  | displaySettings file => Cli.displaySettings h file

end StylesheetBuild.Cli
