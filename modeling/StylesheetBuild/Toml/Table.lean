import StylesheetBuild.Value.Basic

/-!
# Tables under definition

A document defines its tables piece by piece: by headers, by dotted keys, and by both on the way to
a deeper table. Each table remembers how it came about, because a header may define a table once,
and dotted keys may not reach into a table that a header or a value has defined.
-/

namespace StylesheetBuild.Toml

inductive Origin where
  | header
  | impliedByHeader
  | dottedKey
deriving DecidableEq

inductive Node where
  | value (v : Value)
  | table (origin : Origin) (entries : List (String × Node))
  | tables (items : List Node)

abbrev Entries := List (String × Node)

namespace Entries

def set (entries : Entries) (key : String) (node : Node) : Entries :=
  match entries with
  | [] => [(key, node)]
  | e :: rest => if e.1 = key then (key, node) :: rest else e :: set rest key node

end Entries

/-- How a path of keys is followed: what a missing table on it becomes, and which ones may be entered. -/
structure Descent where
  creates : Origin
  enters : Origin → Bool

/-- Towards the table that a header names. -/
def Descent.byHeader : Descent := ⟨.impliedByHeader, fun _ => true⟩

/-- Towards the table that a dotted key extends. -/
def Descent.byKey : Descent := ⟨.dottedKey, (· != .header)⟩

/-- Edits the table at the end of a path. A path through an array of tables goes on in its last. -/
def editAt (descent : Descent) (edit : Origin → Entries → Option Entries) :
    List String → Origin → Entries → Option Entries
  | [], origin, entries => edit origin entries
  | key :: path, _, entries =>
    match entries.lookup key with
    | none => (editAt descent edit path descent.creates []).map fun sub =>
        entries.set key (.table descent.creates sub)
    | some (.value _) => none
    | some (.table origin sub) =>
      if descent.enters origin then
        (editAt descent edit path origin sub).map fun sub => entries.set key (.table origin sub)
      else none
    | some (.tables items) =>
      match items.getLast? with
      | some (.table origin sub) => (editAt descent edit path origin sub).map fun sub =>
          entries.set key (.tables (items.dropLast ++ [.table origin sub]))
      | _ => none

/-- A key with the value it is given. -/
structure Assignment where
  path : List String
  key : String
  value : Value

/-- Neither redefines a key nor adds to a table of another kind than the key asks for. -/
def assign (entries : Entries) (a : Assignment) : Option Entries :=
  editAt .byKey (fun origin entries =>
    if (origin == .dottedKey) == a.path.isEmpty then none
    else if (entries.lookup a.key).isSome then none
    else some (entries.set a.key (.value a.value))) a.path .header entries

def assignAll (entries : Entries) (as : List Assignment) : Option Entries :=
  as.foldlM assign entries

inductive Header where
  | table (path : List String) (key : String)
  | element (path : List String) (key : String)

structure Section where
  header : Header
  assignments : List Assignment

def define (entries : Entries) (s : Section) : Option Entries :=
  match s.header with
  | .table path key =>
    editAt .byHeader (fun _ entries =>
      match entries.lookup key with
      | none => (assignAll [] s.assignments).map fun sub => entries.set key (.table .header sub)
      | some (.table .impliedByHeader sub) =>
        (assignAll sub s.assignments).map fun sub => entries.set key (.table .header sub)
      | some _ => none) path .header entries
  | .element path key =>
    editAt .byHeader (fun _ entries =>
      match entries.lookup key with
      | none => (assignAll [] s.assignments).map fun sub =>
          entries.set key (.tables [.table .header sub])
      | some (.tables items) => (assignAll [] s.assignments).map fun sub =>
          entries.set key (.tables (items ++ [.table .header sub]))
      | some _ => none) path .header entries

mutual

def Node.toValue : Node → Value
  | .value v => v
  | .table _ entries => .object (entryValues entries)
  | .tables items => .arr (itemValues items)

def entryValues : List (String × Node) → List (String × Value)
  | [] => []
  | (key, node) :: rest => (key, node.toValue) :: entryValues rest

def itemValues : List Node → List Value
  | [] => []
  | node :: rest => node.toValue :: itemValues rest

end

/-- The value of the assignments in an inline table. -/
def inlineTable? (as : List Assignment) : Option Value :=
  (assignAll [] as).map fun entries => .object (entryValues entries)

end StylesheetBuild.Toml
