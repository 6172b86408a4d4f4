set_option autoImplicit false

namespace Geoflow.Numeral

/-- The ten ASCII digits; digits of other scripts are not numerals here. -/
def isDigit (c : Char) : Bool := '0' ≤ c && c ≤ '9'

def digitValue (c : Char) : Nat := c.toNat - '0'.toNat

def digits (n : Nat) : List Char := Nat.toDigits 10 n

/-- The number a run of digits stands for, leading zeros included. -/
def value (cs : List Char) : Nat := cs.foldl (fun n c => 10 * n + digitValue c) 0

def padded (width n : Nat) : List Char :=
  let ds := digits n
  List.replicate (width - ds.length) '0' ++ ds

def readNat? (cs : List Char) : Option Nat :=
  if !cs.isEmpty && cs.all isDigit then some (value cs) else none

/-- Reads an optionally signed numeral that is the whole text. -/
def readInt? : List Char → Option Int
  | '-' :: cs => (readNat? cs).map fun n => -(n : Int)
  | '+' :: cs => (readNat? cs).map fun n => (n : Int)
  | cs => (readNat? cs).map fun n => (n : Int)

def ofInt (i : Int) : List Char :=
  if i < 0 then '-' :: digits i.natAbs else digits i.natAbs

def ofNat (n : Nat) : String := String.ofList (digits n)

end Geoflow.Numeral
