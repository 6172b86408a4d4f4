import Geoflow.Sql.Statement
import Geoflow.Dsn.Address
import Geoflow.Text.Outline

set_option autoImplicit false

namespace Geoflow

structure ConnectParams where
  host : String
  port : UInt16
  database : String
  username : String
  password : String
  deriving DecidableEq, Repr

def ConnectParams.outline (p : ConnectParams) : String :=
  Text.outline "ConnectParams"
    [("host", Text.quoted p.host), ("port", Text.integerText p.port.toNat),
      ("database", Text.quoted p.database), ("username", Text.quoted p.username),
      ("password", Text.quoted "<redacted>")]

namespace Dsn

/-- The path of a database name, dot segments resolved. -/
def path (database : List Char) : List Char :=
  Url.pathOf (Text.splitAt '/' (database.filter fun c => !Url.isIgnored c))

/-- The user part with its at sign, and nothing where both texts are empty. -/
def userInfo (username password : List Char) : List Char :=
  let user := Percent.encode Percent.inUserInfo username
  let secret := if password.isEmpty then [] else ':' :: Percent.encode Percent.inUserInfo password
  if username.isEmpty && password.isEmpty then [] else user ++ secret ++ ['@']

def addPair (pair : List Char) : Option (List Char) → List Char
  | none => pair
  | some [] => pair
  | some query => query ++ '&' :: pair

def query (dialect : Dialect) (given : Option (List Char)) : Option (List Char) :=
  match dialect with
  | .postgres => some (addPair "sslmode=disable".toList given)
  | .mysql => given

def withMark (mark : Char) : Option (List Char) → List Char
  | none => []
  | some cs => mark :: cs

def assemble (dialect : Dialect) (params : ConnectParams) (address : Address) : List Char :=
  dialect.driver.toList ++ "://".toList ++ userInfo params.username.toList params.password.toList
    ++ address.host ++ withMark ':' (address.port.map Numeral.digits)
    ++ path params.database.toList ++ withMark '?' (query dialect address.query)
    ++ withMark '#' address.fragment

/-- The data source name, or why the host and port make none. Credentials and database are encoded
into their own parts, and nothing of them can become another part; credentials need a host. -/
def build (dialect : Dialect) (params : ConnectParams) : Except ExtractError String :=
  match Address.read (params.host.toList ++ ':' :: Numeral.digits params.port.toNat) with
  | .error fault => .error (.connection (.address fault))
  | .ok address =>
    if address.host.isEmpty then .error (.connection .username)
    else .ok (String.ofList (assemble dialect params address))

end Dsn

end Geoflow
