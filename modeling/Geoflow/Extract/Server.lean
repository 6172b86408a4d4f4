import Geoflow.Cell.MySql
import Geoflow.Cell.Postgres
import Geoflow.Extract.Stream
import Geoflow.Sql.Statement

set_option autoImplicit false

namespace Geoflow

/-- An error that a server reports; some have a number and a state. -/
structure ServerError where
  code : Option (Nat × String)
  text : String
  deriving DecidableEq, Repr

def ServerError.message (e : ServerError) : String :=
  "error returned from database: " ++
    (match e.code with
    | none => e.text
    | some (number, state) => Numeral.ofNat number ++ " (" ++ state ++ "): " ++ e.text)

/-- A server as one client sees it, with the answers it will give. Its rows are read as they are
pulled, so a row that cannot be read spoils no row before it. -/
structure DatabaseServer where
  loginError : Option ServerError := none
  pingError : Option ServerError := none
  queryError : Option ServerError := none
  columns : List Column := []
  rows : List (List Cell) := []
  /-- An error after the last row. -/
  lateError : Option ServerError := none

def Dialect.readCell : Dialect → String → Cell → Except CellFault SqlValue
  | .postgres => Postgres.readCell
  | .mysql => MySql.readCell

def rowItem (dialect : Dialect) (columns : List Column) (cells : List Cell) : StreamItem :=
  match readRow dialect.readCell columns cells with
  | .ok row => .ok row
  | .error fault => .error (.execution fault.message)

def errorItem (e : ServerError) : StreamItem := .error (.execution e.message)

def DatabaseServer.items (dialect : Dialect) (server : DatabaseServer) : List StreamItem :=
  match server.queryError with
  | some e => [errorItem e]
  | none =>
    server.rows.map (rowItem dialect server.columns) ++ (server.lateError.map errorItem).toList

end Geoflow
