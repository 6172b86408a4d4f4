import Geoflow.Numeral

set_option autoImplicit false

namespace Geoflow

inductive DatabaseFault where
  | foreignKey
  | missingValue (column : String)
  /-- A stored number that does not fit the field of a column, counted from zero. -/
  | outOfRange (value : Int) (column : Nat)
  | full
  | blocked
  | cannotOpen
  deriving DecidableEq, Repr

def DatabaseFault.message : DatabaseFault → String
  | .foreignKey => "FOREIGN KEY constraint failed"
  | .missingValue column => "NOT NULL constraint failed: " ++ column
  | .outOfRange value column =>
    "Integer " ++ String.ofList (Numeral.ofInt value) ++ " out of range at index "
      ++ Numeral.ofNat column
  | .full => "database or disk is full"
  | .blocked => "blocked"
  | .cannotOpen => "unable to open database file"

/-- Why a call on the store failed. -/
inductive StoreError where
  | database (fault : DatabaseFault)
  | serialization
  | io
  deriving DecidableEq, Repr

namespace StoreError

def code : StoreError → String
  | .database _ => "DATABASE_ERROR"
  | .serialization => "SERIALIZATION_ERROR"
  | .io => "IO_ERROR"

def message : StoreError → String
  | .database fault => "database error: " ++ fault.message
  | .serialization => "serialization error"
  | .io => "io error"

end StoreError

end Geoflow
