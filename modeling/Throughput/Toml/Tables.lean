import Throughput.Toml.Value

/-! Building tables from keys and headers, under TOML's rules against defining one twice. -/

namespace Throughput.Toml

inductive Definition
  /-- By a header of its own. -/
  | header
  /-- On the way to the table of a header. -/
  | implied
  /-- By a dotted key. -/
  | dotted
deriving DecidableEq

inductive Node
  | value (content : Value)
  | table (definition : Definition) (entries : List (String × Node))
  /-- One table for each header in double brackets. -/
  | tables (items : List (List (String × Node)))

abbrev Entries := List (String × Node)

structure Pair where
  path : List String
  key : String
  value : Value

namespace Entries

def get? (name : String) : Entries → Option Node
  | [] => none
  | (first, node) :: rest => if first = name then some node else get? name rest

def erase (name : String) (entries : Entries) : Entries := entries.filter (·.1 ≠ name)

/-- Changes what stands under a key, in its place; a new key comes last. -/
def update (name : String) (change : Option Node → Option Node) : Entries → Option Entries
  | [] => do return [(name, ← change none)]
  | (first, node) :: rest => do
    if first = name then return (first, ← change (some node)) :: rest
    else return (first, node) :: (← update name change rest)

def add (key : String) (value : Value) (entries : Entries) : Option Entries :=
  if (entries.get? key).isSome then none else some (entries ++ [(key, .value value)])

def changeLast (change : Entries → Option Entries) : List Entries → Option (List Entries)
  | [] => none
  | [last] => do return [← change last]
  | first :: rest => do return first :: (← changeLast change rest)

/-- Adds a value at the end of a dotted path. The path opens new tables, and only such tables may
take the value. -/
def addAlong (key : String) (value : Value) : Definition → List String → Entries → Option Entries
  | definition, [], entries => if definition = .dotted then add key value entries else none
  | _, name :: path, entries =>
    update name (fun
      | none => (addAlong key value .dotted path []).map (Node.table .dotted)
      | some (.table .header _) => none
      | some (.table definition inner) =>
        (addAlong key value definition path inner).map (Node.table definition)
      | some (.tables items) => (changeLast (addAlong key value .header path) items).map Node.tables
      | some (.value _) => none) entries

def addPair (entries : Entries) (pair : Pair) : Option Entries :=
  if pair.path.isEmpty then add pair.key pair.value entries
  else addAlong pair.key pair.value .header pair.path entries

def addPairs (pairs : List Pair) (entries : Entries) : Option Entries := pairs.foldlM addPair entries

def within (change : Entries → Option Entries) : List String → Entries → Option Entries
  | [], entries => change entries
  | name :: path, entries =>
    update name (fun
      | none => (within change path []).map (Node.table .implied)
      | some (.table definition inner) => (within change path inner).map (Node.table definition)
      | some (.tables items) => (changeLast (within change path) items).map Node.tables
      | some (.value _) => none) entries

/-- Fills the table of a header. A table that was only implied so far is taken over, and moves to
the end. -/
def define (key : String) (pairs : List Pair) (entries : Entries) : Option Entries := do
  let start ← match entries.get? key with
    | none => some []
    | some (.table .implied inner) => some inner
    | some _ => none
  return entries.erase key ++ [(key, .table .header (← addPairs pairs start))]

def append (key : String) (pairs : List Pair) (entries : Entries) : Option Entries := do
  let table ← addPairs pairs []
  update key (fun
    | none => some (.tables [table])
    | some (.tables items) => some (.tables (items ++ [table]))
    | some _ => none) entries

end Entries

mutual

def Node.finish : Node → Value
  | .value content => content
  | .table _ entries => .table (finishEntries entries)
  | .tables items => .array (finishTables items)

def finishEntries : List (String × Node) → List (String × Value)
  | [] => []
  | (key, node) :: rest => (key, node.finish) :: finishEntries rest

def finishTables : List (List (String × Node)) → List Value
  | [] => []
  | entries :: rest => .table (finishEntries entries) :: finishTables rest

end

def inlineTable? (pairs : List Pair) : Option Value := do
  return .table (finishEntries (← Entries.addPairs pairs []))

structure Section where
  path : List String
  key : String
  /-- Whether the header stands in double brackets. -/
  repeated : Bool
  pairs : List Pair

structure Document where
  pairs : List Pair
  sections : List Section

def Section.addTo (root : Entries) (part : Section) : Option Entries :=
  root.within
    (if part.repeated then Entries.append part.key part.pairs else Entries.define part.key part.pairs)
    part.path

def Document.entries? (document : Document) : Option (List (String × Value)) := do
  let root ← Entries.addPairs document.pairs []
  return finishEntries (← document.sections.foldlM Section.addTo root)

end Throughput.Toml
