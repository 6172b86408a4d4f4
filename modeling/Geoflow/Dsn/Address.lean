import Geoflow.Extract.Error
import Geoflow.Url.Path

set_option autoImplicit false

namespace Geoflow.Dsn

open Url

/-- The parts of an address that count; the user part and the path are replaced later. -/
structure Address where
  host : List Char
  port : Option Nat
  query : Option (List Char)
  fragment : Option (List Char)
  deriving DecidableEq, Repr

def Address.read (text : List Char) : Except AddressFault Address := do
  let authority ← Authority.read endsAuthority readOpaqueHost (text.filter fun c => !isIgnored c)
  let (query, fragment) := readTail Percent.inQuery authority.after
  return ⟨authority.host, authority.port, query, fragment⟩

end Geoflow.Dsn
