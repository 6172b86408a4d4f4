set_option autoImplicit false

namespace Geoflow.Hex

/-- What can be wrong with hexadecimal text. Positions count octets of the text, and an octet that
is no digit is shown as the character of that number. -/
inductive Fault where
  | oddLength
  | badDigit (octet : UInt8) (position : Nat)
  deriving DecidableEq, Repr

def digit (n : Nat) : Char := Nat.digitChar (n % 16)

def octet (b : UInt8) : List Char := [digit (b.toNat / 16), digit b.toNat]

def encode (bytes : List UInt8) : List Char := bytes.flatMap octet

def codeValue? (code : Nat) : Option Nat :=
  if 48 ≤ code ∧ code ≤ 57 then some (code - 48)
  else if 97 ≤ code ∧ code ≤ 102 then some (code - 87)
  else if 65 ≤ code ∧ code ≤ 70 then some (code - 55)
  else none

def digitValue? (b : UInt8) : Option Nat := codeValue? b.toNat

def charValue? (c : Char) : Option Nat := codeValue? c.toNat

def decodeFrom : Nat → List UInt8 → Except Fault (List UInt8)
  | position, high :: low :: rest =>
    match digitValue? high, digitValue? low with
    | some h, some l => (decodeFrom (position + 2) rest).map (UInt8.ofNat (16 * h + l) :: ·)
    | none, _ => .error (.badDigit high position)
    | _, none => .error (.badDigit low (position + 1))
  | _, _ => .ok []

def decode (text : List UInt8) : Except Fault (List UInt8) :=
  if text.length % 2 = 1 then .error .oddLength else decodeFrom 0 text

end Geoflow.Hex
