import Geoflow.Text.Blank
import Geoflow.Url.Authority
import Geoflow.Url.Domain
import Geoflow.Url.Ipv4
import Geoflow.Url.Path

set_option autoImplicit false

namespace Geoflow

/-- A URL in its normal form, without credentials. The special schemes always have a host, which is
looked into, and leave their usual port out. -/
structure Url where
  scheme : List Char
  /-- The host, empty where the URL has an authority without one. -/
  host : Option (List Char)
  port : Option Nat
  path : List Char
  query : Option (List Char)
  fragment : Option (List Char)
  deriving DecidableEq, Repr

namespace Url

def usualPort? (scheme : List Char) : Option Nat :=
  if scheme = "http".toList ∨ scheme = "ws".toList then some 80
  else if scheme = "https".toList ∨ scheme = "wss".toList then some 443
  else if scheme = "ftp".toList then some 21
  else none

def isSpecial (scheme : List Char) : Bool := (usualPort? scheme).isSome

def isWeb (u : Url) : Bool := u.scheme = "http".toList ∨ u.scheme = "https".toList

def hasHost (u : Url) : Bool := u.host.any fun host => !host.isEmpty

def withMark (mark : Char) : Option (List Char) → List Char
  | none => []
  | some cs => mark :: cs

def target (u : Url) : List Char := u.path ++ withMark '?' u.query

def authority (u : Url) : List Char := u.host.getD [] ++ withMark ':' (u.port.map Numeral.digits)

/-- What stands between the scheme and the path. Without an authority, a path that starts with two
slashes is kept apart from the scheme. -/
def lead (u : Url) : List Char :=
  if u.host.isSome then '/' :: '/' :: u.authority
  else if u.path.take 2 = ['/', '/'] then ['/', '.']
  else []

def chars (u : Url) : List Char :=
  u.scheme ++ ':' :: u.lead ++ u.target ++ withMark '#' u.fragment

def toText (u : Url) : String := String.ofList u.chars

def splitScheme? : List Char → Option (List Char × List Char)
  | [] => none
  | c :: rest =>
    let isPart := fun d : Char => d.isAlphanum || d == '+' || d == '-' || d == '.'
    let name := rest.takeWhile isPart
    match rest.dropWhile isPart with
    | ':' :: after => if c.isAlpha then some ((c :: name).map Char.toLower, after) else none
    | _ => none

def isForbiddenInDomain (c : Char) : Bool :=
  isForbiddenInHost c || c == '%' || c.toNat < 32 || 127 ≤ c.toNat

def readSpecialHost (cs : List Char) : Except AddressFault (List Char) :=
  match cs with
  | '[' :: _ => readOpaqueHost cs
  | _ =>
    match (Percent.decode cs).toOption >>= Domain.ascii? with
    | none => .error .invalidDomainCharacter
    | some name =>
      if name.isEmpty then .error .emptyHost
      else if name.any isForbiddenInDomain then .error .invalidDomainCharacter
      else if Ipv4.endsInNumber name then
        match Ipv4.read? name with
        | some n => .ok (Ipv4.render n)
        | none => .error .invalidIpv4Address
      else .ok name

/-- Slashes of a special scheme; a backslash is one, too. -/
def isSlash (c : Char) : Bool := c == '/' || c == '\\'

/-- The segments of a path after its first slash, which may be left out. -/
def segmentsOf (special : Bool) (path : List Char) : List (List Char) :=
  let path := if special then path.map fun c => if c = '\\' then '/' else c else path
  Text.splitAt '/' (if path.head? = some '/' then path.drop 1 else path)

/-- Reads what follows the slashes of an authority. -/
def readAuthority? (scheme rest : List Char) : Option Url := do
  let special := isSpecial scheme
  let ends := fun c => endsAuthority c || (special && c == '\\')
  let ⟨host, port, after⟩ ←
    (Authority.read ends (if special then readSpecialHost else readOpaqueHost) rest).toOption
  let path := after.takeWhile fun c => c != '?' && c != '#'
  let (query, fragment) :=
    readTail (if special then Percent.inSpecialQuery else Percent.inQuery) after
  return { scheme, host := some host, port := if port = usualPort? scheme then none else port
           path := if path.isEmpty && !special then [] else pathOf (segmentsOf special path)
           query, fragment }

def readPlain (scheme rest : List Char) : Url :=
  let path := rest.takeWhile fun c => c != '?' && c != '#'
  let (query, fragment) := readTail Percent.inQuery rest
  { scheme, host := none, port := none
    path := if path.head? = some '/' then pathOf (segmentsOf false path)
      else Percent.encode Percent.controls path
    query, fragment }

/-- The characters that count: no blanks or controls at either end, no tabs and line ends. -/
def stripped (cs : List Char) : List Char :=
  let isEdge := fun c : Char => c.toNat ≤ 32
  (((cs.dropWhile isEdge).reverse.dropWhile isEdge).reverse).filter fun c => !isIgnored c

def readChars? (cs : List Char) : Option Url := do
  let (scheme, rest) ← splitScheme? (stripped cs)
  if isSpecial scheme then readAuthority? scheme (rest.dropWhile isSlash)
  else match rest with
    | '/' :: '/' :: after => readAuthority? scheme after
    | _ => return readPlain scheme rest

def read? (s : String) : Option Url := readChars? s.toList

end Url

end Geoflow
