import Geoflow.Json.Reader

set_option autoImplicit false

namespace Geoflow

/-- What a trigger runs. -/
inductive JobKey where
  | pipeline (id : Int64)
  | sync (id : Int64)
  deriving DecidableEq, Repr

namespace JobKey

def pipelineStem : List Char := "pipeline-".toList

def syncStem : List Char := "erp-".toList

def chars : JobKey → List Char
  | .pipeline id => pipelineStem ++ Numeral.ofInt id.toInt
  | .sync id => syncStem ++ Numeral.ofInt id.toInt

def toText (k : JobKey) : String := String.ofList k.chars

inductive Fault where
  | invalidId (text : String)
  | unknown (text : String)
  deriving DecidableEq, Repr

def Fault.message : Fault → String
  | .invalidId text => "invalid job id in key: " ++ text
  | .unknown text => "unknown job key: " ++ text

/-- The number of a key: a signed numeral of the 64-bit range. -/
def readId? (cs : List Char) : Option Int64 :=
  match Numeral.readInt? cs with
  | some n =>
    if Int64.minValue.toInt ≤ n ∧ n ≤ Int64.maxValue.toInt then some (Int64.ofInt n) else none
  | none => none

def afterStem? (stem cs : List Char) : Option (List Char) :=
  if stem.isPrefixOf cs then some (cs.drop stem.length) else none

/-- Reads the text of a key. -/
def ofText (s : String) : Except Fault JobKey :=
  match afterStem? pipelineStem s.toList with
  | some digits => match readId? digits with
    | some id => .ok (.pipeline id)
    | none => .error (.invalidId s)
  | none =>
    match afterStem? syncStem s.toList with
    | some digits => match readId? digits with
      | some id => .ok (.sync id)
      | none => .error (.invalidId s)
    | none => .error (.unknown s)

/-- The order of keys: pipelines before syncs, then by number. -/
def le : JobKey → JobKey → Bool
  | .pipeline a, .pipeline b => a.toInt ≤ b.toInt
  | .pipeline _, .sync _ => true
  | .sync _, .pipeline _ => false
  | .sync a, .sync b => a.toInt ≤ b.toInt

def kind : JobKey → String
  | .pipeline _ => "pipeline"
  | .sync _ => "sync"

def id : JobKey → Int64
  | .pipeline id => id
  | .sync id => id

def toJson (k : JobKey) : Json := .ofEntries [("kind", .str k.kind), ("id", .int k.id.toInt)]

def ofKind (name : String) : Except ReadError (Int64 → JobKey) :=
  if name = "pipeline" then .ok .pipeline
  else if name = "sync" then .ok .sync
  else .error (.unknownVariant name ["pipeline", "sync"])

section Readers

variable {δ : Type} [Document δ]

/-- Reads a kind: a name, or an object with the name as its only entry and no content. -/
def readKind (d : δ) : Except ReadError (Int64 → JobKey) :=
  match Document.view d with
  | .str name => ofKind name
  | .map [(name, content)] => do
    let make ← ofKind name
    match Document.view content with
    | .null => return make
    | other => throw (other.mismatch "unit")
  | .map _ => .error (.invalidValue .map "map with a single key")
  | other => .error (other.mismatch "string or map")

def shape : String := "adjacently tagged enum JobKey"

/-- Reads the JSON form of a key: kind and number by name, or in this order. -/
def read (d : δ) : Except ReadError JobKey :=
  match Document.view d with
  | .map entries => do
    let make ← match entries.lookup "kind" with
      | some kind => readKind kind
      | none => throw (.missingField "kind")
    match entries.lookup "id" with
    | some id => return make (← readInt64 id)
    | none => throw (.missingField "id")
  | .sequence [] => .error (.invalidLength 0 shape)
  | .sequence (kind :: rest) => do
    let make ← readKind kind
    match rest with
    | [] => throw (.invalidLength 1 shape)
    | id :: others =>
      let key := make (← readInt64 id)
      if others.isEmpty then return key
      else throw (.invalidLength (others.length + 2) "fewer elements in array")
  | other => .error (other.mismatch shape)

end Readers

end JobKey

end Geoflow
