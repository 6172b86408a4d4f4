set_option autoImplicit false

namespace Geoflow

/-- A double precision number, given by its bits; two are equal exactly when they are bit-identical.
-/
structure Binary64 where
  bits : UInt64
  deriving DecidableEq, Repr

namespace Binary64

def signUnit : Nat := Nat.pow 2 63

/-- The bits of positive infinity; every finite magnitude is below. -/
def infinityBits : Nat := 2047 * Nat.pow 2 52

def ofMagnitude (negative : Bool) (magnitude : Nat) : Binary64 :=
  ⟨UInt64.ofNat (if negative then signUnit + magnitude else magnitude)⟩

def isNegative (x : Binary64) : Bool := signUnit ≤ x.bits.toNat

def magnitude (x : Binary64) : Nat := x.bits.toNat % signUnit

def isFinite (x : Binary64) : Bool := x.magnitude < infinityBits

def isNaN (x : Binary64) : Bool := infinityBits < x.magnitude

def isZero (x : Binary64) : Bool := x.magnitude == 0

def zero (negative : Bool) : Binary64 := ofMagnitude negative 0

def infinity (negative : Bool) : Binary64 := ofMagnitude negative infinityBits

/-- The quotient of two naturals rounded to the nearest whole number, a tie to the even one. -/
def divHalfEven (num den : Nat) : Nat :=
  let quotient := num / den
  let twice := 2 * (num % den)
  if twice < den then quotient
  else if den < twice then quotient + 1
  else quotient + quotient % 2

/-- The magnitude bits nearest to `num / den`. All finite numbers are multiples of `2 ^ -1074`;
from `2 ^ 53` of these units on, numbers are `2 ^ shift` units apart. A rounding up into the next
power of two carries into the exponent by itself, and the largest results saturate at infinity. -/
def roundBits (num den : Nat) : Nat :=
  let units := num * Nat.pow 2 1074
  let shift := (units / den).log2 - 52
  min (shift * Nat.pow 2 52 + divHalfEven units (den * Nat.pow 2 shift)) infinityBits

/-- The double nearest to a ratio, ties to even. -/
def ofRatio (negative : Bool) (num den : Nat) : Binary64 :=
  ofMagnitude negative (roundBits num den)

def ofInt (i : Int) : Binary64 := ofRatio (i < 0) i.natAbs 1

/-- How far the unit in the last place is above `2 ^ -1074`, as a power of two. -/
def scale (x : Binary64) : Nat := x.magnitude / Nat.pow 2 52 - 1

/-- The significand in units of the last place, hidden bit included. -/
def significand (x : Binary64) : Nat :=
  x.magnitude % Nat.pow 2 52 + (if x.magnitude / Nat.pow 2 52 = 0 then 0 else Nat.pow 2 52)

/-- The magnitude of a finite number in units of `2 ^ -1074`. -/
def units (x : Binary64) : Nat := x.significand * Nat.pow 2 x.scale

def mul (x y : Binary64) : Binary64 :=
  ofRatio (x.isNegative != y.isNegative) (x.units * y.units) (Nat.pow 2 2148)

def div (x y : Binary64) : Binary64 :=
  ofRatio (x.isNegative != y.isNegative) x.units y.units

def neg (x : Binary64) : Binary64 := ofMagnitude (!x.isNegative) x.magnitude

/-- The double of the same value as a single precision number given by its bits. -/
def ofSingle (single : UInt32) : Binary64 :=
  let word := single.toNat
  let negative : Bool := Nat.pow 2 31 ≤ word
  let exponent := word / Nat.pow 2 23 % 256
  let fraction := word % Nat.pow 2 23
  if exponent = 255 then
    ofMagnitude negative (infinityBits + fraction * Nat.pow 2 29)
  else if exponent = 0 then
    ofRatio negative fraction (Nat.pow 2 149)
  else
    ofRatio negative ((Nat.pow 2 23 + fraction) * Nat.pow 2 (exponent - 1)) (Nat.pow 2 149)

instance : Inhabited Binary64 := ⟨zero false⟩

end Binary64

end Geoflow
