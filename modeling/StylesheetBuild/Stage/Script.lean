import StylesheetBuild.Stage.Basic
import StylesheetBuild.Text.Substitution
import StylesheetBuild.Value.Printer

/-!
# Scripted stages

A stage given by a list of actions, for hosts that describe their stages as data. The actions
run in order on the text and the context, and the first failure ends the stage.
-/

namespace StylesheetBuild.StageScript

inductive Action where
  | prepend (s : String)
  | append (s : String)
  /-- Turns ASCII letters into capitals. -/
  | capitalize
  | replace (old new : String)
  /-- Stores a value; `showOld` appends the value that was there before. -/
  | store (key : String) (value : Value) (showOld : Bool)
  | display (key : String)
  | fail (error : CompileError)
  | failIfKey (key : String) (error : CompileError)
  | failUnlessKey (key : String) (error : CompileError)

def missingText : String := "<none>"

def step (state : String × StageContext) (action : Action) :
    Except CompileError (String × StageContext) :=
  let (content, context) := state
  match action with
  | .prepend s => .ok (s ++ content, context)
  | .append s => .ok (content ++ s, context)
  | .capitalize => .ok (content.map Char.toUpper, context)
  | .replace old new => .ok (Text.replaced old new content, context)
  | .store key value showOld =>
    let old := if showOld then ((context[key]?).map Value.compact).getD "" else ""
    .ok (content ++ old, context.insert key value)
  | .display key => .ok (content ++ ((context[key]?).map Value.compact).getD missingText, context)
  | .fail error => .error error
  | .failIfKey key error => if context.contains key then .error error else .ok state
  | .failUnlessKey key error => if context.contains key then .ok state else .error error

def stage [Monad m] (name : String) (actions : List Action) : Stage m :=
  .ofFunction name fun content context => actions.foldlM step (content, context)

end StylesheetBuild.StageScript
