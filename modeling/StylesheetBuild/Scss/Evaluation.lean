import Std.Data.ExtTreeMap
import StylesheetBuild.Scss.Css

/-!
# Evaluation

Statements are evaluated in their order: variables are replaced by their values, nested rules are
flattened behind the rule around them, and an import stands for whatever an `Importer` makes of it.
-/

namespace StylesheetBuild.Scss

/-! ## Variables -/

abbrev Bindings := Std.ExtTreeMap String (List Token)

/-- The variables outside of rules, and those of each rule around the place of evaluation, innermost
first. -/
structure Scope where
  global : Bindings := ∅
  locals : List Bindings := []

namespace Scope

def get? (s : Scope) (name : String) : Option (List Token) :=
  (s.locals ++ [s.global]).findSome? (·[name]?)

/-- Changes the innermost rule that has the variable; a new one goes to the innermost rule. -/
def assignLocal (name : String) (value : List Token) : List Bindings → List Bindings
  | [] => []
  | b :: bs =>
    if b.contains name || !bs.any (·.contains name) then b.insert name value :: bs
    else b :: assignLocal name value bs

/-- Inside a rule the variables outside of rules are not changed. -/
def assign (s : Scope) (name : String) (value : List Token) : Scope :=
  if s.locals.isEmpty then { s with global := s.global.insert name value }
  else { s with locals := assignLocal name value s.locals }

def enter (s : Scope) : Scope :=
  { s with locals := ∅ :: s.locals }

def leave (s : Scope) : Scope :=
  { s with locals := s.locals.tail }

end Scope

abbrev Evaluator (m : Type → Type) := StateT Scope (ExceptT Failure m)

/-! ## Statements -/

section

variable {m : Type → Type} [Monad m]

def fail (e : Failure) : Evaluator m α :=
  StateT.lift (throw e)

def refuse (file : String) (r : Refusal) : Evaluator m α :=
  fail (.refused r file)

def evaluatePiece (file : String) : Piece → Evaluator m (List Token)
  | .token t => pure [t]
  | .reference name position => do
    match (← get).get? name with
    | some tokens => pure tokens
    | none => refuse file ⟨"Undefined variable.", position⟩

def evaluateValue (file : String) (value : List Piece) : Evaluator m (List Token) := do
  return (← value.mapM (evaluatePiece file)).flatten

/-- Every selector of a nested rule stands below every selector of the rule around it. -/
def nestSelectors (outer inner : List Selector) : List Selector :=
  if outer.isEmpty then inner
  else outer.flatMap fun o => inner.map fun i =>
    ⟨o.text ++ " " ++ i.text, o.startsLine || i.startsLine⟩

def entryOf? : Node → Option Entry
  | .entry e => some e
  | .rule _ => none

def isRule : Node → Bool
  | .entry _ => false
  | .rule _ => true

def markLast : List Node → List Node
  | [] => []
  | [n] => [n.markGroupEnd]
  | n :: ns => n :: markLast ns

/-- A rule with what its body evaluates to: its own entries first, then the rules inside it. -/
def flatten (outer selectors : List Selector) (body : List Node) : List Node :=
  let own := Node.rule ⟨selectors, body.filterMap entryOf?, false⟩
  let group := own :: body.filter isRule
  if outer.isEmpty then markLast group else group

/-- Evaluates an import between the given selectors. -/
abbrev Importer (m : Type → Type) := List Selector → String → Position → Evaluator m (List Node)

mutual

def evaluate (file : String) (importer : Importer m) (outer : List Selector) :
    Statement → Evaluator m (List Node)
  | .assign name value => do
    let tokens ← evaluateValue file value
    modify (·.assign name tokens)
    pure []
  | .declare property value => do
    let tokens ← evaluateValue file value
    pure [.entry (.declaration property tokens)]
  | .comment text column => pure [.entry (.comment text column)]
  | .link target => pure [.entry (.link target)]
  | .load name position => importer outer name position
  | .rule selectors body => do
    let selectors := nestSelectors outer selectors
    modify Scope.enter
    let nodes ← evaluateAll file importer selectors body
    modify Scope.leave
    pure (flatten outer selectors nodes)

def evaluateAll (file : String) (importer : Importer m) (outer : List Selector) :
    List Statement → Evaluator m (List Node)
  | [] => pure []
  | s :: ss => do
    let nodes ← evaluate file importer outer s
    let rest ← evaluateAll file importer outer ss
    pure (nodes ++ rest)

end

end

end StylesheetBuild.Scss
