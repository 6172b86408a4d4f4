import Geoflow.Json.Basic
import Geoflow.Text.Capital
import Geoflow.Url.Basic

set_option autoImplicit false

namespace Geoflow.Http

def isTokenChar (c : Char) : Bool :=
  c.isAlphanum || ['!', '#', '$', '%', '&', '\'', '*', '+', '-', '.', '^', '_', '\x60', '|',
    '~'].contains c

def isToken (cs : List Char) : Bool := !cs.isEmpty && cs.all isTokenChar

def readMethod? (s : String) : Option String :=
  let cs := Text.capitals (Text.trimmed s.toList)
  if isToken cs then some (String.ofList cs) else none

def isValueChar (c : Char) : Bool := c == '\t' || (32 ≤ c.toNat && c.toNat != 127)

structure Header where
  name : String
  value : String
  deriving DecidableEq, Repr

def maxNameLength : Nat := 65535

def Header.build? (name value : String) : Option Header :=
  if isToken name.toList ∧ name.toList.length ≤ maxNameLength ∧ value.toList.all isValueChar then
    some ⟨name.toLower, value⟩
  else none

structure Request where
  method : String
  url : Url
  headers : List Header
  /-- A document as body. -/
  body : Option Json := none

/-- What a request asks for: path and query, or host and port where it asks for a tunnel. -/
def Request.target (r : Request) : List Char :=
  if r.method = "CONNECT" then r.url.authority else r.url.target

/-- A response. There is no body where it ended too early. -/
structure Response where
  status : Nat
  body : Option (List UInt8)
  deriving DecidableEq, Repr

def Response.isSuccess (r : Response) : Bool := 200 ≤ r.status && r.status < 300

inductive TransportFault where
  | failed
  | timedOut
  deriving DecidableEq, Repr

/-- What answers requests. -/
abbrev Transport := Request → Except TransportFault Response

inductive Fault where
  /-- It was not built, with the URL if the fault is in its scheme. -/
  | builder (url : Option Url)
  | sending (url : Url) (fault : TransportFault)
  | decoding
  deriving DecidableEq, Repr

def ofUrl (url : Url) : String := " for url (" ++ url.toText ++ ")"

def Fault.message : Fault → String
  | .builder none => "builder error"
  | .builder (some url) => "builder error" ++ ofUrl url
  | .sending url _ => "error sending request" ++ ofUrl url
  | .decoding => "error decoding response body"

/-- Builds a request. The URL is read first and needs a host; then come the headers, and last the
scheme. A header that is none stands for one that cannot be built. -/
def buildRequest (method url : String) (headers : List (Option Header)) (body : Option Json) :
    Except Fault Request :=
  match Url.read? url with
  | none => .error (.builder none)
  | some u =>
    if !u.hasHost then .error (.builder (some u))
    else match headers.mapM id with
      | none => .error (.builder none)
      | some headers =>
        if u.isWeb then .ok ⟨method, u, headers, body⟩ else .error (.builder (some u))

/-- Whether a response to a request ends with its head, whatever the server sends after it. -/
def Response.isHeadOnly (request : Request) (r : Response) : Bool :=
  r.status = 204 ∨ r.status = 304 ∨ request.method = "HEAD"
    ∨ (request.method = "CONNECT" ∧ r.isSuccess)

def Response.received (request : Request) (r : Response) : Response :=
  if r.isHeadOnly request then { r with body := some [] } else r

def send (transport : Transport) (r : Request) : Except Fault Response :=
  match transport r with
  | .ok response => .ok (response.received r)
  | .error fault => .error (.sending r.url fault)

def Response.octets (r : Response) : Except Fault (List UInt8) :=
  match r.body with
  | some b => .ok b
  | none => .error .decoding

end Geoflow.Http
