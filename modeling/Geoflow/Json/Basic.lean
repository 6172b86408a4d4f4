import Geoflow.Binary64.Basic

set_option autoImplicit false

namespace Geoflow

/-- A JSON document. Whole numbers of the 64-bit ranges are kept exactly, every other number as a
double. The entries of an object are ordered by name, each name once; `Json.ofEntries` builds them
so. -/
inductive Json where
  | null
  | bool (b : Bool)
  | int (n : Int)
  | float (x : Binary64)
  | str (s : String)
  | arr (items : List Json)
  | obj (entries : List (String × Json))

namespace Json

/-- Puts an entry into its place by name; an entry of the same name is replaced. -/
def insertEntry {α : Type} (name : String) (value : α) : List (String × α) → List (String × α)
  | [] => [(name, value)]
  | (other, kept) :: rest =>
    if name < other then (name, value) :: (other, kept) :: rest
    else if name = other then (name, value) :: rest
    else (other, kept) :: insertEntry name value rest

/-- Entries ordered by name; of several entries of one name the last counts. -/
def sortEntries {α : Type} (entries : List (String × α)) : List (String × α) :=
  entries.foldl (fun sorted entry => insertEntry entry.1 entry.2 sorted) []

def ofEntries (entries : List (String × Json)) : Json := .obj (sortEntries entries)

/-- A number that has no JSON form, NaN or an infinity, is written as null. -/
def ofBinary64 (x : Binary64) : Json := if x.isFinite then .float x else .null

def ofOption {α : Type} (write : α → Json) : Option α → Json
  | none => .null
  | some a => write a

def get? (name : String) : Json → Option Json
  | .obj entries => entries.lookup name
  | _ => none

instance : Inhabited Json := ⟨.null⟩

end Json

end Geoflow
