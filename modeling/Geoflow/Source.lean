import Geoflow.Json.Reader
import Geoflow.Text.Outline

set_option autoImplicit false

namespace Geoflow

structure DataSource where
  id : Int64
  ownerId : Int64
  name : String
  provider : String
  host : String
  port : UInt16
  database : String
  username : String
  /-- The sealed password as hexadecimal text. -/
  password : String
  deriving DecidableEq, Repr

namespace DataSource

def read {δ : Type} [Document δ] : δ → Except ReadError DataSource :=
  readShape "struct DataSource" 9 fun fs =>
    DataSource.mk <$> fs.required 0 "id" readInt64
      <*> fs.required 1 "owner_id" readInt64
      <*> fs.required 2 "name" readString
      <*> fs.required 3 "provider" readString
      <*> fs.required 4 "host" readString
      <*> fs.required 5 "port" readUInt16
      <*> fs.required 6 "database" readString
      <*> fs.required 7 "username" readString
      <*> fs.required 8 "password" readString

def toJson (s : DataSource) : Json :=
  .ofEntries [("id", .int s.id.toInt), ("owner_id", .int s.ownerId.toInt), ("name", .str s.name),
    ("provider", .str s.provider), ("host", .str s.host), ("port", .int s.port.toNat),
    ("database", .str s.database), ("username", .str s.username), ("password", .str s.password)]

/-- The outline of a source, without its password. -/
def outline (s : DataSource) : String :=
  Text.outline "DataSource"
    [("id", Text.integerText s.id.toInt), ("owner_id", Text.integerText s.ownerId.toInt),
      ("name", Text.quoted s.name), ("provider", Text.quoted s.provider),
      ("host", Text.quoted s.host), ("port", Text.integerText s.port.toNat),
      ("database", Text.quoted s.database), ("username", Text.quoted s.username),
      ("password", Text.quoted "<encrypted>")]

end DataSource

end Geoflow
