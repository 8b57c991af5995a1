import StylesheetBuild.Scss.Chunk
import StylesheetBuild.Scss.Statement

/-!
# Syntax trees

The statements of a text, with those of a rule inside it. Reading goes through the chunks in the
order of the text, so the first error in the text is the one that is reported.
-/

namespace StylesheetBuild.Scss

/-! ## Nesting -/

/-- A rule whose closing brace has not been read, with its statements newest first. -/
structure OpenRule where
  selectors : List Selector
  body : List Statement := []

/-- The rules around the place of reading, innermost first, and the statements outside of rules. -/
structure Nesting where
  rules : List OpenRule := []
  statements : List Statement := []

namespace Nesting

def add (n : Nesting) (s : Statement) : Nesting :=
  match n.rules with
  | [] => { n with statements := s :: n.statements }
  | r :: rules => { n with rules := { r with body := s :: r.body } :: rules }

def close (n : Nesting) (p : Position) : Except Refusal Nesting :=
  match n.rules with
  | [] => .error ⟨"unmatched \"\x7d\".", p⟩
  | r :: rules => .ok (({ n with rules := rules } : Nesting).add (.rule r.selectors r.body.reverse))

def commentStatement (text : List Mark) : Statement :=
  .comment (Mark.text text) (headPosition text .start).column

/-- In CSS no rule stands in another one. -/
def openRule (d : Dialect) (n : Nesting) (head : List Mark) (brace : Position) :
    Except Refusal Nesting :=
  if d = .css ∧ !n.rules.isEmpty then .error (nestedRefusal head brace)
  else .ok { n with rules := ⟨readSelectors head, []⟩ :: n.rules }

def step (d : Dialect) (n : Nesting) : Chunk → Except Refusal Nesting
  | .comment text => .ok (n.add (commentStatement text))
  | .silentComment _ => .ok n
  | .opening head brace => n.openRule d head brace
  | .closing p => n.close p
  | .item text stop => do
    let statements ← readItem d (!n.rules.isEmpty) text stop
    pure (statements.foldl add n)
  | .unended last => .error ⟨"expected more input.", last⟩

end Nesting

/-- The statements of the chunks of a text that ends at `last`. -/
def statementsOf (d : Dialect) (chunks : List Chunk) (last : Position) :
    Except Refusal (List Statement) := do
  let nesting ← chunks.foldlM (Nesting.step d) {}
  if nesting.rules.isEmpty then pure nesting.statements.reverse
  else throw (expectedChar '\x7d' last)

/-- Refuses a comment to the end of a line at `silent`, unless there is an error before it. -/
def refuseAt (silent : Position) (result : Except Refusal α) : Except Refusal α :=
  match result with
  | .error r => .error (if r.position.isBefore silent then r else noSilentComments silent)
  | .ok _ => .error (noSilentComments silent)

/-- The statements of a text. -/
def parse (d : Dialect) (text : String) : Except Refusal (List Statement) :=
  let marks := Mark.ofText text
  let chunks := Chunk.ofMarks marks
  let statements := statementsOf d chunks (Chunk.lastPosition marks)
  match d, chunks.findSome? Chunk.silentComment? with
  | .css, some silent => refuseAt silent statements
  | _, _ => statements

end StylesheetBuild.Scss
