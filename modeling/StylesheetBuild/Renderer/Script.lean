import StylesheetBuild.Renderer.Basic
import StylesheetBuild.Text.Lines
import StylesheetBuild.Text.Substitution

/-!
# Scripted renderers

A renderer given by data, for hosts that test their pipelines without a real one: it fails with a
fixed error, or at the first line that holds a forbidden text, or else returns the source with a
heading and a fixed source map.
-/

namespace StylesheetBuild

structure RenderScript where
  failure : Option CompileError := none
  needle : Option String := none
  filename : Option String := none
  heading : String := ""
  map : Option String := none

namespace RenderScript

/-- The number of the first line, counted from one, that holds a text. -/
def lineWith? (needle content : String) : Option Nat :=
  let found := (Text.lines content.toList).findIdx? (Text.occursIn needle.toList)
  found.map (· + 1)

def needleError? (script : RenderScript) (content : String) : Option CompileError := do
  let needle ← script.needle
  let line ← lineWith? needle content
  some (.render ("found " ++ needle) (some line) (some 2) script.filename)

def output (script : RenderScript) (content : String) : Except CompileError RenderOutput :=
  match script.failure.or (script.needleError? content) with
  | some error => .error error
  | none => .ok ⟨script.heading ++ content, script.map⟩

def renderer [Monad m] (script : RenderScript) : Renderer m where
  name := "scripted"
  render content _ := ExceptT.mk (pure (script.output content))

end RenderScript

end StylesheetBuild
