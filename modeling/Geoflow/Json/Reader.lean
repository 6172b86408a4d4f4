import Geoflow.Binary64.Shortest
import Geoflow.Text.Quoted
import Geoflow.Json.Raw

set_option autoImplicit false

namespace Geoflow

inductive Found where
  | null
  | bool (b : Bool)
  | int (n : Int)
  | float (x : Binary64)
  | str (s : String)
  | sequence
  | map
  deriving DecidableEq, Repr

namespace Found

def describe : Found → String
  | .null => "null"
  | .bool b => "boolean `" ++ (if b then "true" else "false") ++ "`"
  | .int n => "integer `" ++ String.ofList (Numeral.ofInt n) ++ "`"
  | .float x => "floating point `" ++ x.toJsonText ++ "`"
  | .str s => "string " ++ Text.quoted s
  | .sequence => "sequence"
  | .map => "map"

end Found

inductive ReadError where
  | invalidType (found : Found) (expected : String)
  | invalidValue (found : Found) (expected : String)
  | invalidLength (length : Nat) (expected : String)
  | missingField (name : String)
  | duplicateField (name : String)
  | unknownVariant (name : String) (known : List String)
  /-- A text that does not have the required form. -/
  | malformed (reason : String)
  /-- A part of a raw text that has no meaning, or nests too deep. -/
  | meaningless
  deriving DecidableEq, Repr

def ticked (s : String) : String := "`" ++ s ++ "`"

def choice : List String → String
  | [] => "there are no variants"
  | [a] => ticked a
  | [a, b] => ticked a ++ " or " ++ ticked b
  | names => "one of " ++ String.intercalate ", " (names.map ticked)

def ReadError.message : ReadError → String
  | .invalidType found expected => "invalid type: " ++ found.describe ++ ", expected " ++ expected
  | .invalidValue found expected => "invalid value: " ++ found.describe ++ ", expected " ++ expected
  | .invalidLength length expected =>
    "invalid length " ++ Numeral.ofNat length ++ ", expected " ++ expected
  | .missingField name => "missing field " ++ ticked name
  | .duplicateField name => "duplicate field " ++ ticked name
  | .unknownVariant name [] => "unknown variant " ++ ticked name ++ ", " ++ choice []
  | .unknownVariant name known => "unknown variant " ++ ticked name ++ ", expected " ++ choice known
  | .malformed reason => reason
  | .meaningless => "text without meaning"

inductive View (δ : Type) where
  | null
  | bool (b : Bool)
  | int (n : Int)
  | float (x : Binary64)
  | str (s : String)
  | sequence (items : List δ)
  | map (entries : List (String × δ))
  | meaningless

def View.mismatch {δ : Type} (expected : String) : View δ → ReadError
  | .null => .invalidType .null expected
  | .bool b => .invalidType (.bool b) expected
  | .int n => .invalidType (.int n) expected
  | .float x => .invalidType (.float x) expected
  | .str s => .invalidType (.str s) expected
  | .sequence _ => .invalidType .sequence expected
  | .map _ => .invalidType .map expected
  | .meaningless => .meaningless

/-- What can be read like a document, one level at a time. So one description of a shape reads
parsed documents and raw texts alike. -/
class Document (δ : Type) where
  view : δ → View δ
  /-- The whole as a document. -/
  toJson : δ → Except ReadError Json

open Document (view)

instance : Document Json where
  view
    | .null => .null
    | .bool b => .bool b
    | .int n => .int n
    | .float x => .float x
    | .str s => .str s
    | .arr items => .sequence items
    | .obj entries => .map entries
  toJson := .ok

/-- A raw text with the nesting that is still allowed in it. -/
structure Json.Nested where
  raw : Json.Raw
  depth : Nat

namespace Json.Nested

def entries? (depth : Nat) : List (Option String × Raw) → Option (List (String × Nested))
  | [] => some []
  | (name, value) :: rest => do
    let name ← name
    let rest ← entries? depth rest
    return (name, ⟨value, depth⟩) :: rest

def view (d : Nested) : View Nested :=
  match d.raw, d.depth with
  | .null, _ => .null
  | .bool b, _ => .bool b
  | .number n, _ =>
    match n.toJson? with
    | some (.int i) => .int i
    | some (.float x) => .float x
    | _ => .meaningless
  | .string (some s), _ => .str s
  | .string none, _ => .meaningless
  | .array items, depth + 1 => .sequence (items.map fun item => ⟨item, depth⟩)
  | .object entries, depth + 1 =>
    match entries? depth entries with
    | some entries => .map entries
    | none => .meaningless
  | _, _ => .meaningless

end Json.Nested

instance : Document Json.Nested where
  view := Json.Nested.view
  toJson d := match d.raw.toJson? d.depth with
    | some doc => .ok doc
    | none => .error .meaningless

section Scalars

variable {δ : Type} [Document δ]

def readString (d : δ) : Except ReadError String :=
  match view d with
  | .str s => .ok s
  | other => .error (other.mismatch "a string")

def readBool (d : δ) : Except ReadError Bool :=
  match view d with
  | .bool b => .ok b
  | other => .error (other.mismatch "a boolean")

/-- A whole number between two limits; `kind` names its type. -/
def readRange (kind : String) (least greatest : Int) (d : δ) : Except ReadError Int :=
  match view d with
  | .int n =>
    if least ≤ n ∧ n ≤ greatest then .ok n else .error (.invalidValue (.int n) kind)
  | other => .error (other.mismatch kind)

def readInt64 (d : δ) : Except ReadError Int64 :=
  (readRange "i64" Int64.minValue.toInt Int64.maxValue.toInt d).map Int64.ofInt

def readUInt64 (d : δ) : Except ReadError UInt64 :=
  (readRange "u64" 0 (UInt64.size - 1) d).map fun n => UInt64.ofNat n.toNat

/-- A count of things in memory; it has 64 bits too, under a name of its own. -/
def readSize (d : δ) : Except ReadError UInt64 :=
  (readRange "usize" 0 (UInt64.size - 1) d).map fun n => UInt64.ofNat n.toNat

def readUInt32 (d : δ) : Except ReadError UInt32 :=
  (readRange "u32" 0 (UInt32.size - 1) d).map fun n => UInt32.ofNat n.toNat

def readUInt16 (d : δ) : Except ReadError UInt16 :=
  (readRange "u16" 0 (UInt16.size - 1) d).map fun n => UInt16.ofNat n.toNat

/-- A double; a whole number is rounded to the nearest one. -/
def readBinary64 (d : δ) : Except ReadError Binary64 :=
  match view d with
  | .float x => .ok x
  | .int n => .ok (.ofInt n)
  | other => .error (other.mismatch "f64")

def readOption {α : Type} (read : δ → Except ReadError α) (d : δ) : Except ReadError (Option α) :=
  match view d with
  | .null => .ok none
  | _ => (read d).map some

/-- Reads all items and stops at the first fault. -/
def readItems {α : Type} (read : δ → Except ReadError α) : List δ → Except ReadError (List α)
  | [] => .ok []
  | d :: rest => do
    let a ← read d
    let as ← readItems read rest
    return a :: as

def readList {α : Type} (read : δ → Except ReadError α) (d : δ) : Except ReadError (List α) :=
  match view d with
  | .sequence items => readItems read items
  | other => .error (other.mismatch "a sequence")

/-- An object of any documents, ordered by name. -/
def readMap (d : δ) : Except ReadError (List (String × Json)) :=
  match view d with
  | .map entries => do
    let values ← readItems (fun e : String × δ => (Document.toJson e.2).map (e.1, ·)) entries
    return Json.sortEntries values
  | other => .error (other.mismatch "a map")

end Scalars

/-- A fault with its place in the document. -/
structure Placed where
  place : Nat
  error : ReadError

inductive Reading (α : Type) where
  | value (a : α)
  | fault (f : Placed)

namespace Reading

/-- Both outcomes; of two faults the one that stands first, and the left one of two at one place. -/
def both {α β : Type} : Reading (α → β) → Reading α → Reading β
  | .value f, .value a => .value (f a)
  | .value _, .fault e => .fault e
  | .fault e, .value _ => .fault e
  | .fault e, .fault e' => .fault (if e'.place < e.place then e' else e)

instance : Seq Reading where
  seq f a := both f (a ())

instance : Functor Reading where
  map f
    | .value a => .value (f a)
    | .fault e => .fault e

def toExcept {α : Type} : Reading α → Except ReadError α
  | .value a => .ok a
  | .fault e => .error e.error

end Reading

inductive FieldSource (δ : Type) where
  | named (entries : List (String × δ))
  | positional (items : List δ)

structure Fields (δ : Type) where
  shape : String
  count : Nat
  source : FieldSource δ

def Fields.expected {δ : Type} (fs : Fields δ) : String :=
  fs.shape ++ " with " ++ Numeral.ofNat fs.count ++
    (if fs.count = 1 then " element" else " elements")

/-- The entries of a name with their places, counted from a given one. -/
def entriesOf {δ : Type} (name : String) : Nat → List (String × δ) → List (Nat × δ)
  | _, [] => []
  | place, (other, d) :: rest =>
    if other = name then (place, d) :: entriesOf name (place + 1) rest
    else entriesOf name (place + 1) rest

def placeAt {α : Type} (place : Nat) : Except ReadError α → Reading α
  | .ok a => .value a
  | .error e => .fault ⟨place, e⟩

/-- One field: its position in an array, its name in an object, how it is read and the value it has
where it is absent. -/
def Fields.field {δ α : Type} (fs : Fields δ) (index : Nat) (name : String)
    (read : δ → Except ReadError α) (absent : Option α) : Reading α :=
  match fs.source with
  | .named entries =>
    match entriesOf name 0 entries with
    | [] =>
      match absent with
      | some a => .value a
      | none => .fault ⟨entries.length, .missingField name⟩
    | [(place, d)] => placeAt place (read d)
    | (place, d) :: (again, _) :: _ =>
      match read d with
      | .error e => .fault ⟨place, e⟩
      | .ok _ => .fault ⟨again, .duplicateField name⟩
  | .positional items =>
    match items[index]? with
    | some d => placeAt index (read d)
    | none =>
      match absent with
      | some a => .value a
      | none => .fault ⟨index, .invalidLength index fs.expected⟩

def Fields.required {δ α : Type} (fs : Fields δ) (index : Nat) (name : String)
    (read : δ → Except ReadError α) : Reading α :=
  fs.field index name read none

def Fields.withDefault {δ α : Type} (fs : Fields δ) (index : Nat) (name : String)
    (read : δ → Except ReadError α) (value : α) : Reading α :=
  fs.field index name read (some value)

/-- Reads a shape of `count` fields, from an object or from an array of them in order. The fields
are read independently of each other; of several faults the one that stands first in the document is
reported, and missing fields come after it in the order of their declaration. -/
def readShape {δ α : Type} [Document δ] (shape : String) (count : Nat)
    (build : Fields δ → Reading α) (d : δ) : Except ReadError α :=
  match view d with
  | .map entries => (build ⟨shape, count, .named entries⟩).toExcept
  | .sequence items =>
    match (build ⟨shape, count, .positional items⟩).toExcept with
    | .error e => .error e
    | .ok a =>
      if count < items.length then
        .error (.invalidLength items.length "fewer elements in array")
      else .ok a
  | other => .error (other.mismatch shape)

end Geoflow
