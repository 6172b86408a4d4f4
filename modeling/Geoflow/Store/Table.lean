import Geoflow.Store.Error

set_option autoImplicit false

namespace Geoflow

/-- Numbered rows in ascending order. A number is never given out again, not even after its row is
deleted. -/
structure Table (ρ : Type) where
  rows : List (Nat × ρ) := []
  /-- The greatest number given out so far. -/
  issued : Nat := 0
  /-- Whether every change of a row is refused. -/
  blocked : Bool := false

namespace Table

variable {ρ : Type}

def greatestId : Nat := Int64.maxValue.toNatClampNeg

def isId (key : Nat) (id : Int64) : Bool := (key : Int) == id.toInt

def find? (t : Table ρ) (id : Int64) : Option (Nat × ρ) := t.rows.find? fun row => isId row.1 id

/-- Adds a row under the next number. -/
def insert (t : Table ρ) (row : ρ) : Table ρ × Except DatabaseFault Nat :=
  if t.blocked then (t, .error .blocked)
  else if t.issued < greatestId then
    let id := t.issued + 1
    ({ t with rows := t.rows ++ [(id, row)], issued := id }, .ok id)
  else (t, .error .full)

def update (t : Table ρ) (id : Int64) (change : ρ → ρ) : Table ρ × Except DatabaseFault Nat :=
  let hits := t.rows.countP fun row => isId row.1 id
  if 0 < hits ∧ t.blocked then (t, .error .blocked)
  else
    ({ t with rows := t.rows.map fun row => if isId row.1 id then (row.1, change row.2) else row },
      .ok hits)

def delete (t : Table ρ) (p : Nat → ρ → Bool) : Table ρ × Except DatabaseFault Nat :=
  let hits := t.rows.countP fun row => p row.1 row.2
  if 0 < hits ∧ t.blocked then (t, .error .blocked)
  else ({ t with rows := t.rows.filter fun row => !p row.1 row.2 }, .ok hits)

end Table

end Geoflow
