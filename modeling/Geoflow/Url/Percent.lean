import Geoflow.Text.Hex
import Geoflow.Text.Utf8

set_option autoImplicit false

namespace Geoflow.Percent

abbrev Escaped := UInt8 → Bool

def ascii (c : Char) : UInt8 := UInt8.ofNat c.toNat

def isOneOf (cs : List Char) (b : UInt8) : Bool := cs.any fun c => ascii c == b

def controls : Escaped := fun b => b < 0x20 || 0x7F ≤ b

def inQuery : Escaped := fun b => controls b || isOneOf [' ', '"', '#', '<', '>'] b

def inSpecialQuery : Escaped := fun b => inQuery b || isOneOf ['\''] b

def inFragment : Escaped := fun b => controls b || isOneOf [' ', '"', '<', '>', '\x60'] b

def inPath : Escaped := fun b => inFragment b || isOneOf ['#', '?', '\x7b', '\x7d'] b

/-- User names and passwords: what would end them or separate them is encoded too. -/
def inUserInfo : Escaped := fun b =>
  inPath b || isOneOf ['/', ':', ';', '=', '@', '[', '\\', ']', '^', '|'] b

def capitalDigit (n : Nat) : Char := (Hex.digit n).toUpper

def encodeOctet (escaped : Escaped) (b : UInt8) : List Char :=
  if escaped b then ['%', capitalDigit (b.toNat / 16), capitalDigit b.toNat]
  else [Char.ofNat b.toNat]

/-- The encoded form of a text. What may stand in a part of an address differs from part to part;
the percent sign itself may stand in all of them, so a text that already looks encoded is left as it
is. -/
def encode (escaped : Escaped) (cs : List Char) : List Char :=
  (Utf8.encode cs).flatMap (encodeOctet escaped)

def decodeOctets : List UInt8 → List UInt8
  | 0x25 :: high :: low :: rest =>
    match Hex.digitValue? high, Hex.digitValue? low with
    | some h, some l => UInt8.ofNat (16 * h + l) :: decodeOctets rest
    | _, _ => 0x25 :: decodeOctets (high :: low :: rest)
  | b :: rest => b :: decodeOctets rest
  | [] => []

def octets (cs : List Char) : List UInt8 := decodeOctets (Utf8.encode cs)

/-- The text that was encoded; a percent sign without two digits after it stays. -/
def decode (cs : List Char) : Except Utf8.Fault (List Char) := Utf8.decode (octets cs)

end Geoflow.Percent
