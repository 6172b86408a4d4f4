import Geoflow.Numeral
import Geoflow.Binary64.Basic

set_option autoImplicit false

namespace Geoflow

/-- The exact decimal value `± significand · 10 ^ exponent`. -/
structure Decimal where
  negative : Bool
  significand : Nat
  exponent : Int
  deriving DecidableEq, Repr

namespace Decimal

def readExponent? : List Char → Option Int
  | [] => some 0
  | c :: rest => if c = 'e' ∨ c = 'E' then Numeral.readInt? rest else none

def readUnsigned? (negative : Bool) (cs : List Char) : Option Decimal :=
  let whole := cs.takeWhile Numeral.isDigit
  let rest := cs.dropWhile Numeral.isDigit
  let (fraction, tail) := match rest with
    | '.' :: after => (after.takeWhile Numeral.isDigit, after.dropWhile Numeral.isDigit)
    | _ => ([], rest)
  if (whole ++ fraction).isEmpty then none
  else (readExponent? tail).map fun exponent =>
    ⟨negative, Numeral.value (whole ++ fraction), exponent - fraction.length⟩

/-- Reads a text that is a decimal literal as a whole: an optional sign, digits with an optional
fraction, one digit in all at least, and an optional exponent. -/
def read? : List Char → Option Decimal
  | '-' :: cs => readUnsigned? true cs
  | '+' :: cs => readUnsigned? false cs
  | cs => readUnsigned? false cs

/-- The nearest double. Beyond `10 ^ 310` the nearest is infinity and below `10 ^ -330` it is zero,
so the powers that are computed stay small. -/
def toBinary64 (d : Decimal) : Binary64 :=
  let order := (Numeral.digits d.significand).length + d.exponent
  if d.significand = 0 then .zero d.negative
  else if 310 < order then .infinity d.negative
  else if order < -330 then .zero d.negative
  else if 0 ≤ d.exponent then .ofRatio d.negative (d.significand * Nat.pow 10 d.exponent.toNat) 1
  else .ofRatio d.negative d.significand (Nat.pow 10 (-d.exponent).toNat)

end Decimal

namespace Binary64

/-- The spellings of infinity and NaN, in any letter case and with any sign. -/
def readSpecial? (cs : List Char) : Option Binary64 :=
  let (negative, name) := match cs with
    | '-' :: rest => (true, rest)
    | '+' :: rest => (false, rest)
    | _ => (false, cs)
  let lowered := name.map Char.toLower
  if lowered = "inf".toList ∨ lowered = "infinity".toList then some (infinity negative)
  else if lowered = "nan".toList then some (ofMagnitude negative (infinityBits + Nat.pow 2 51))
  else none

/-- Reads a text that is a number as a whole, infinities and NaN included. -/
def read? (cs : List Char) : Option Binary64 :=
  match Decimal.read? cs with
  | some d => some d.toBinary64
  | none => readSpecial? cs

end Binary64

end Geoflow
