import Geoflow.Row.Value
import Geoflow.Validation.Result

set_option autoImplicit false

namespace Geoflow

/-- A row of a result, with its columns in the order of the statement; names may repeat. -/
structure Row where
  columns : List (String × SqlValue)
  deriving DecidableEq, Repr

namespace Row

def get? (r : Row) (name : String) : Option SqlValue := r.columns.lookup name

def toCanonical (r : Row) : CanonicalRecord :=
  let column := fun name => (r.get? name).getD .null
  ⟨(column "id").asText, (column "full_address").asText, (column "latitude").asBinary64,
    (column "longitude").asBinary64⟩

/-- The row as an object; of columns of one name the last counts. -/
def toJson (r : Row) : Json := .ofEntries (r.columns.map fun c => (c.1, c.2.toJson))

end Row

end Geoflow
