import Geoflow.Json.Basic

set_option autoImplicit false

namespace Geoflow.Toml

/-- How a table came to be, which decides what may still be added to it. -/
inductive Origin where
  /-- Named in the header of a table inside it. -/
  | implied
  /-- Named in a dotted key. -/
  | dotted
  /-- By a header of its own. -/
  | defined
  deriving DecidableEq, Repr

inductive Node where
  | value (v : Json)
  | table (origin : Origin) (entries : List (String × Node))
  /-- Tables under one header in double brackets; the last one is open. -/
  | tables (items : List (List (String × Node)))

abbrev Entries := List (String × Node)

mutual

def Node.toJson : Node → Json
  | .value v => v
  | .table _ entries => .ofEntries (entriesToJson entries)
  | .tables items => .arr (itemsToJson items)

def entriesToJson : List (String × Node) → List (String × Json)
  | [] => []
  | (name, node) :: rest => (name, node.toJson) :: entriesToJson rest

def itemsToJson : List (List (String × Node)) → List Json
  | [] => []
  | entries :: rest => .ofEntries (entriesToJson entries) :: itemsToJson rest

end

def replaceEntry (name : String) (node : Node) (entries : Entries) : Entries :=
  entries.map fun entry => if entry.1 = name then (name, node) else entry

/-- Changes the table at the end of a path. Missing tables on the way get an origin of their own;
a dotted key cannot go through a table that has a header. -/
def descend (dotted : Bool) (change : Origin → Entries → Option Entries) :
    List String → Origin → Entries → Option Entries
  | [], origin, entries => change origin entries
  | name :: path, _, entries =>
    match entries.lookup name with
    | none => do
      let origin : Origin := if dotted then .dotted else .implied
      let child ← descend dotted change path origin []
      some (entries ++ [(name, .table origin child)])
    | some (.value _) => none
    | some (.table origin child) =>
      if dotted ∧ origin = .defined then none
      else do
        let child ← descend dotted change path origin child
        some (replaceEntry name (.table origin child) entries)
    | some (.tables items) =>
      match items.getLast? with
      | none => none
      | some last => do
        let last ← descend dotted change path .defined last
        some (replaceEntry name (.tables (items.dropLast ++ [last])) entries)

def splitLast? (path : List String) : Option (List String × String) :=
  path.getLast?.map fun last => (path.dropLast, last)

def addEntry (name : String) (node : Node) (entries : Entries) : Option Entries :=
  if (entries.lookup name).isSome then none else some (entries ++ [(name, node)])

/-- Sets a dotted key in a table. A table that the key reaches through others must have been made
by dotted keys, and the table itself must not. -/
def setDotted (path : List String) (v : Json) (origin : Origin) (entries : Entries) :
    Option Entries := do
  let (tables, name) ← splitLast? path
  descend true (fun reached entries =>
    if decide (reached = .dotted) == tables.isEmpty then none else addEntry name (.value v) entries)
    tables origin entries

def openTable (path : List String) (root : Entries) : Option Entries := do
  let (tables, name) ← splitLast? path
  descend false (fun _ entries => match entries.lookup name with
    | none => some (entries ++ [(name, .table .defined [])])
    | some (.table .implied child) => some (replaceEntry name (.table .defined child) entries)
    | some _ => none) tables .defined root

def openListed (path : List String) (root : Entries) : Option Entries := do
  let (tables, name) ← splitLast? path
  descend false (fun _ entries => match entries.lookup name with
    | none => some (entries ++ [(name, .tables [[]])])
    | some (.tables items) => some (replaceEntry name (.tables (items ++ [[]])) entries)
    | some _ => none) tables .defined root

end Geoflow.Toml
