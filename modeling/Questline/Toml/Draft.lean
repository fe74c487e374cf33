import Questline.Toml.Value

/-!
# Drafts of Documents

A document while it is read. Headers and dotted keys may return to a table, but define it only once,
so a draft remembers for each table how it came about. An edit that would define something twice is
refused.
-/

namespace Questline.Toml

/-- How a table came about. -/
inductive Origin where
  /-- By a header of its own, or as the document. -/
  | defined
  /-- On the way to a table that has a header. -/
  | passed
  /-- By a dotted key. -/
  | dotted
deriving DecidableEq, Repr

inductive Node where
  | value (v : Value)
  | table (origin : Origin) (members : List (String × Node))
  /-- An array of tables, one for each of its headers. -/
  | tables (items : List (List (String × Node)))

abbrev Members := List (String × Node)

namespace Members

/-- Puts a node in the place of the one with its key, or at the end. -/
def put (key : String) (node : Node) : Members → Members
  | [] => [(key, node)]
  | m :: ms => if m.1 = key then (key, node) :: ms else m :: put key node ms

/-- Edits the table that a path leads to, from a table of the given origin. Missing tables on the
way are made, by the given origin. An array of tables leads to its last one. Values lead nowhere,
and a dotted path does not enter a table that was defined. -/
def editAt (via : Origin) (edit : Origin → Members → Option Members) :
    List String → Origin → Members → Option Members
  | [], origin, ms => edit origin ms
  | key :: path, _, ms =>
    match ms.lookup key with
    | none => (editAt via edit path via []).map fun sub => ms ++ [(key, .table via sub)]
    | some (.value _) => none
    | some (.table origin sub) =>
      if via = .dotted ∧ origin = .defined then none
      else (editAt via edit path origin sub).map fun sub => put key (.table origin sub) ms
    | some (.tables items) =>
      match items.getLast? with
      | none => none
      | some sub =>
        (editAt via edit path .defined sub).map fun sub =>
          put key (.tables (items.dropLast ++ [sub])) ms

/-- Adds a value under a dotted key, given as the path to its table and its last part. The table is
one that the path itself has made. -/
def addValue (path : List String) (key : String) (v : Value) :
    Origin → Members → Option Members :=
  editAt .dotted
    (fun origin ms =>
      if origin = .dotted ↔ path = [] then none
      else if (ms.lookup key).isSome then none
      else some (ms ++ [(key, .value v)]))
    path

/-- Defines the table of a header. A table that was only passed through becomes defined. -/
def openTable (path : List String) (key : String) : Members → Option Members :=
  editAt .passed
    (fun _ ms =>
      match ms.lookup key with
      | none => some (ms ++ [(key, .table .defined [])])
      | some (.table .passed sub) => some (put key (.table .defined sub) ms)
      | some _ => none)
    path .defined

/-- Adds a table to the array of a header. -/
def openElement (path : List String) (key : String) : Members → Option Members :=
  editAt .passed
    (fun _ ms =>
      match ms.lookup key with
      | none => some (ms ++ [(key, .tables [[]])])
      | some (.tables items) => some (put key (.tables (items ++ [[]])) ms)
      | some _ => none)
    path .defined

end Members

mutual

def Node.finish : Node → Value
  | .value v => v
  | .table _ ms => .table (finishMembers ms)
  | .tables items => .array (finishTables items)

def finishMembers : List (String × Node) → List (String × Value)
  | [] => []
  | (key, node) :: ms => (key, node.finish) :: finishMembers ms

def finishTables : List (List (String × Node)) → List Value
  | [] => []
  | ms :: items => .table (finishMembers ms) :: finishTables items

end

end Questline.Toml
