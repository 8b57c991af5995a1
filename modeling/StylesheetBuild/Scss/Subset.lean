import StylesheetBuild.Scss.Import

/-!
# An engine for a part of SCSS

Variables, nested rules, comments and imports, in SCSS and in CSS. It has no modules, mixins,
functions, arithmetic, interpolation or control flow, and is there to run the program and to have an
engine at hand: nothing about the program depends on it.
-/

namespace StylesheetBuild.Scss

variable {m : Type → Type} [Monad m]

def compilePath (s : EngineOptions m) (p : Path) : ExceptT Failure m String := do
  compileSource s (← readSource s.files p)

def subset : Engine m where
  compileFile := compilePath
  compileText s text := compileSource s ⟨unnamedSource, text, .scss⟩

end StylesheetBuild.Scss
