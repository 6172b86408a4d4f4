import Geoflow.Numeral
import Geoflow.Url.Ipv6
import Geoflow.Url.Percent

set_option autoImplicit false

namespace Geoflow

inductive AddressFault where
  | emptyHost
  | invalidDomainCharacter
  | invalidIpv4Address
  | invalidIpv6Address
  | invalidPort
  deriving DecidableEq, Repr

def AddressFault.message : AddressFault → String
  | .emptyHost => "empty host"
  | .invalidDomainCharacter => "invalid domain character"
  | .invalidIpv4Address => "invalid IPv4 address"
  | .invalidIpv6Address => "invalid IPv6 address"
  | .invalidPort => "invalid port number"

namespace Url

/-- Tabs and line ends are passed over everywhere. -/
def isIgnored (c : Char) : Bool := c == '\t' || c == '\n' || c == '\r'

def endsAuthority (c : Char) : Bool := c == '/' || c == '?' || c == '#'

def splitUser (cs : List Char) : Option (List Char) × List Char :=
  let after := (cs.reverse.takeWhile (· != '@')).reverse
  if after.length = cs.length then (none, cs)
  else (some (cs.take (cs.length - after.length - 1)), after)

def splitHost : Bool → List Char → List Char × List Char
  | _, [] => ([], [])
  | inBrackets, c :: rest =>
    if c = ':' ∧ !inBrackets then ([], c :: rest)
    else
      let inside := if c = '[' then true else if c = ']' then false else inBrackets
      let (host, after) := splitHost inside rest
      (c :: host, after)

def isForbiddenInHost (c : Char) : Bool :=
  ['\x00', '\t', '\n', '\r', ' ', '#', '/', ':', '<', '>', '?', '@', '[', '\\', ']', '^',
    '|'].contains c

def maxPort : Nat := 65535

/-- The port after a host and what follows it: absent, or a colon with digits that may be none. A
backslash starts a path here. -/
def readPort : List Char → Except AddressFault (Option Nat × List Char)
  | ':' :: rest =>
    let ds := rest.takeWhile Numeral.isDigit
    let after := rest.dropWhile Numeral.isDigit
    if maxPort < Numeral.value ds ∨ (after.head?.any fun c => c != '\\') then .error .invalidPort
    else .ok (if ds.isEmpty then none else some (Numeral.value ds), after)
  | cs => .ok (none, cs)

/-- The written form of a host that is not looked into. -/
def readOpaqueHost (cs : List Char) : Except AddressFault (List Char) :=
  match cs with
  | '[' :: rest =>
    if rest.getLast? = some ']' then
      match Ipv6.read? rest.dropLast with
      | some ns => .ok ('[' :: Ipv6.render ns ++ [']'])
      | none => .error .invalidIpv6Address
    else .error .invalidIpv6Address
  | _ =>
    if cs.any isForbiddenInHost then .error .invalidDomainCharacter
    else .ok (Percent.encode Percent.controls cs)

structure Authority where
  host : List Char
  port : Option Nat
  after : List Char
  deriving DecidableEq, Repr

/-- Reads an authority that ends where a path, query or fragment starts. A user part is passed over
and needs a host after it; one that is empty or a lone colon counts as none. -/
def Authority.read (ends : Char → Bool) (readHost : List Char → Except AddressFault (List Char))
    (cs : List Char) : Except AddressFault Authority := do
  let tail := cs.dropWhile fun c => !ends c
  let (user, address) := splitUser (cs.takeWhile fun c => !ends c)
  if user = some [] ∧ address.isEmpty ∧ !tail.isEmpty then throw .emptyHost
  let (hostText, afterHost) := splitHost false address
  let host ← readHost hostText
  if host.isEmpty ∧ !afterHost.isEmpty then throw .emptyHost
  let (port, afterPort) ← readPort afterHost
  let hasUser := user.any fun u => !u.isEmpty && u != [':']
  if host.isEmpty ∧ hasUser then throw .emptyHost
  return ⟨host, port, afterPort ++ tail⟩

/-- Query and fragment of what follows the authority. What is encoded in a query depends on the
scheme. -/
def readTail (query : Percent.Escaped) (cs : List Char) : Option (List Char) × Option (List Char) :=
  let afterPath := cs.dropWhile fun c => c != '?' && c != '#'
  let (given, afterQuery) := match afterPath with
    | '?' :: rest =>
      (some (Percent.encode query (rest.takeWhile (· != '#'))), rest.dropWhile (· != '#'))
    | _ => (none, afterPath)
  match afterQuery with
  | '#' :: rest => (given, some (Percent.encode Percent.inFragment rest))
  | _ => (given, none)

end Url

end Geoflow
