import StylesheetBuild.Proofs.Cli.Failures
import StylesheetBuild.Proofs.Path.Folding

/-!
# Accounting of the compile command

A listed file is either attempted or skipped, and a list of names that are not empty is gone through
to its end, as far as the working directory is known. What the command answers is read off the
attempts: the tally holds the diagnostics that they leave and the number of those that failed, and
nothing of the files that were skipped.
-/

namespace StylesheetBuild.Cli

section

variable {m : Type → Type} [Monad m] [WorkingDirectory]

variable [LawfulMonad m]

end

section

variable {m : Type → Type} [Monad m] [LawfulMonad m] [WorkingDirectory]

end

section

attribute [local instance] inWorkspace

end

end StylesheetBuild.Cli
