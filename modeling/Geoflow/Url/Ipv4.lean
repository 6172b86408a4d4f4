import Geoflow.Numeral
import Geoflow.Text.Blank
import Geoflow.Text.Hex

set_option autoImplicit false

namespace Geoflow.Ipv4

def digitValue? (base : Nat) (c : Char) : Option Nat :=
  if c.toNat < 128 then (Hex.digitValue? (UInt8.ofNat c.toNat)).filter (· < base) else none

def readDigits? (base : Nat) (cs : List Char) : Option Nat :=
  cs.foldlM (fun n c => (digitValue? base c).map (base * n + ·)) 0

/-- A number in the base that its first characters say. -/
def readNumber? : List Char → Option Nat
  | [] => none
  | '0' :: 'x' :: rest => readDigits? 16 rest
  | '0' :: 'X' :: rest => readDigits? 16 rest
  | ['0'] => some 0
  | '0' :: rest => readDigits? 8 rest
  | cs => readDigits? 10 cs

def parts (cs : List Char) : List (List Char) :=
  let all := Text.splitAt '.' cs
  if 1 < all.length ∧ all.getLast? = some [] then all.dropLast else all

/-- Whether a host can only be an address: its last part is a number. -/
def endsInNumber (cs : List Char) : Bool :=
  match (parts cs).getLast? with
  | none => false
  | some last => (!last.isEmpty && last.all Numeral.isDigit) || (readNumber? last).isSome

/-- The address of a host that ends in a number: up to four numbers, the last of which fills the
octets that are left. -/
def read? (cs : List Char) : Option Nat := do
  let numbers ← (parts cs).mapM readNumber?
  let front := numbers.dropLast
  let last ← numbers.getLast?
  if front.length < 4 ∧ front.all (· < 256) ∧ last < Nat.pow 256 (4 - front.length) then
    some (front.foldl (fun n b => 256 * n + b) 0 * Nat.pow 256 (4 - front.length) + last)
  else none

def render (n : Nat) : List Char :=
  Text.joined ['.']
    ([n / 16777216 % 256, n / 65536 % 256, n / 256 % 256, n % 256].map Numeral.digits)

end Geoflow.Ipv4
