import Std.Data.ExtTreeMap
import StylesheetBuild.Decimal.Binary64

/-!
# Configuration values

The values that settings files and options hold: those of JSON, with integers and binary floating
point numbers kept apart. The fields of an object are a list of pairs; `Value.object` puts them into
ascending order of the keys and keeps the last of two fields with one key.
-/

namespace StylesheetBuild

inductive Value where
  | null
  | bool (b : Bool)
  | int (n : Int)
  | real (x : Binary64)
  | str (s : String)
  | arr (items : List Value)
  | obj (fields : List (String × Value))
deriving BEq, Inhabited

namespace Value

def bool? : Value → Option Bool
  | bool b => some b
  | _ => none

def str? : Value → Option String
  | str s => some s
  | _ => none

/-- The first field named `key`. -/
def field? (fields : List (String × Value)) (key : String) : Option Value :=
  fields.lookup key

def object (fields : List (String × Value)) : Value :=
  .obj (Std.ExtTreeMap.ofList fields : Std.ExtTreeMap String Value).toList

/-- The integer is a signed word of 64 bits. -/
def isWord (n : Int) : Bool :=
  Int64.minValue.toInt ≤ n && n ≤ Int64.maxValue.toInt

mutual

/-- The value with null in place of every number that no JSON text can spell. -/
def spellable : Value → Value
  | real x => if x.isFinite then real x else null
  | arr items => arr (spellableItems items)
  | obj fields => obj (spellableFields fields)
  | v => v

def spellableItems : List Value → List Value
  | [] => []
  | v :: vs => v.spellable :: spellableItems vs

def spellableFields : List (String × Value) → List (String × Value)
  | [] => []
  | (key, v) :: fields => (key, v.spellable) :: spellableFields fields

end

end Value

end StylesheetBuild
