import Geoflow.Dsn.Build

set_option autoImplicit false

namespace Geoflow

/-- What a database driver takes from a data source name. -/
structure Login where
  host : String
  port : Option Nat
  user : String
  password : String
  /-- The database, if one is named. -/
  database : Option String
  deriving DecidableEq, Repr

namespace Login

def defaultUser : String := "root"

def afterScheme (cs : List Char) : List Char := (cs.dropWhile (· != '/')).drop 2

def splitPassword (user : List Char) : List Char × List Char :=
  (user.takeWhile (· != ':'), (user.dropWhile (· != ':')).drop 1)

def readChars (dsn : List Char) : Except Utf8.Fault Login := do
  let rest := afterScheme dsn
  let authority := rest.takeWhile fun c => !Url.endsAuthority c
  let path := (rest.dropWhile fun c => !Url.endsAuthority c).takeWhile fun c => c != '?' && c != '#'
  let (userPart, address) := Url.splitUser authority
  let (userText, passwordText) := splitPassword (userPart.getD [])
  let (host, afterHost) := Url.splitHost false address
  let user ← Percent.decode userText
  let password ← Percent.decode passwordText
  let databaseText := path.dropWhile (· == '/')
  let database ← Percent.decode databaseText
  return { host := String.ofList host
           port := Numeral.readNat? (afterHost.drop 1)
           user := if userText.isEmpty then defaultUser else String.ofList user
           password := String.ofList password
           database := if databaseText.isEmpty then none else some (String.ofList database) }

def read (dsn : String) : Except Utf8.Fault Login := readChars dsn.toList

end Login

end Geoflow
