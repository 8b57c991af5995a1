import StylesheetBuild.Path.Names
import StylesheetBuild.Scss.Source

/-!
# Dialects

A stylesheet is written in SCSS or in CSS itself. CSS has no variables, no rules inside of rules and
no comments to the end of a line, and its imports stay in the stylesheet.
-/

namespace StylesheetBuild.Scss

inductive Dialect where
  | scss
  | css
deriving DecidableEq

def cssExtension : String := "css"

/-- The extension tells the dialect of a file. -/
def Dialect.ofPath (p : Path) : Dialect :=
  if p.extension? = some cssExtension then .css else .scss

def noSilentComments (p : Position) : Refusal :=
  ⟨"Silent comments aren't allowed in plain CSS.", p⟩

def noVariables (p : Position) : Refusal :=
  ⟨"Sass variables aren't allowed in plain CSS.", p⟩

def noNestedDeclarations (p : Position) : Refusal :=
  ⟨"Nested declarations aren't allowed in plain CSS.", p⟩

end StylesheetBuild.Scss
