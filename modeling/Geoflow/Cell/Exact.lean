import Geoflow.Numeral

set_option autoImplicit false

namespace Geoflow

/-- The number `value · 10 ^ (-scale)`. -/
structure ExactDecimal where
  value : Int
  scale : Int
  deriving DecidableEq, Repr

namespace ExactDecimal

/-- With more zeros than these after the point, before the first digit, an exponent is written. -/
def maxLeadingZeros : Int := 5

def maxTrailingZeros : Int := 15

def scientific (ds : List Char) (exponent : Int) : List Char :=
  ds.take 1 ++ (if ds.length = 1 then [] else '.' :: ds.drop 1) ++ 'E' :: Numeral.ofInt exponent

def positional (ds : List Char) (scale : Nat) : List Char :=
  if scale = 0 then ds
  else if scale < ds.length then
    ds.take (ds.length - scale) ++ '.' :: ds.drop (ds.length - scale)
  else "0.".toList ++ List.replicate (scale - ds.length) '0' ++ ds

def magnitudeChars (ds : List Char) (scale : Int) : List Char :=
  if maxLeadingZeros < scale - ds.length then scientific ds (ds.length - scale - 1)
  else if maxTrailingZeros < -scale then ds ++ "e+".toList ++ Numeral.ofInt (-scale)
  else if scale < 0 then ds ++ List.replicate (-scale).toNat '0'
  else positional ds scale.toNat

/-- The text of a number. Places of a zero are not written, those of other numbers are. -/
def chars (d : ExactDecimal) : List Char :=
  if d.value = 0 then ['0']
  else (if d.value < 0 then ['-'] else []) ++ magnitudeChars (Numeral.digits d.value.natAbs) d.scale

def toText (d : ExactDecimal) : String := String.ofList d.chars

inductive Fault where
  | empty
  | noDigits
  | badDigit
  deriving DecidableEq, Repr

def Fault.message : Fault → String
  | .empty => "Failed to parse empty string"
  | .noDigits => "cannot parse integer from empty string"
  | .badDigit => "invalid digit found in string"

def readWhole (cs : List Char) : Except Fault Int :=
  let ds := match cs with
    | '-' :: rest => rest
    | '+' :: rest => rest
    | _ => cs
  if ds.isEmpty then .error .noDigits
  else match Numeral.readInt? cs with
    | some n => .ok n
    | none => .error .badDigit

/-- The digits of a number without exponent, and how many of them are after the point. -/
def splitPoint (cs : List Char) : List Char × Nat :=
  let fraction := (cs.dropWhile (· != '.')).drop 1
  (cs.takeWhile (· != '.') ++ fraction, fraction.length)

def read (cs : List Char) : Except Fault ExactDecimal :=
  let isExponentMark := fun c : Char => c == 'e' || c == 'E'
  let base := cs.takeWhile fun c => !isExponentMark c
  let (ds, places) := splitPoint base
  match cs.dropWhile fun c => !isExponentMark c with
  | [] =>
    if base.isEmpty then .error .empty else (readWhole ds).map fun n => ⟨n, places⟩
  | _ :: exponent =>
    match Numeral.readInt? exponent with
    | none => .error .badDigit
    | some e => if base.isEmpty then .error .empty else (readWhole ds).map fun n => ⟨n, places - e⟩

end ExactDecimal

/-- A decimal in base 10000 digits, the first of which counts `10000 ^ weight`. No digit at either
end is zero. -/
structure GroupedDecimal where
  negative : Bool
  weight : Int
  groups : List Nat
  deriving DecidableEq, Repr

namespace GroupedDecimal

def groupsOf (n : Nat) : List Nat :=
  if _ : n = 0 then [] else groupsOf (n / 10000) ++ [n % 10000]
termination_by n

def ofExact (d : ExactDecimal) : GroupedDecimal :=
  let pad := ((-d.scale) % 4).toNat
  let groups := groupsOf (d.value.natAbs * Nat.pow 10 pad)
  { negative := d.value < 0
    weight := (groups.length : Int) - (d.scale + pad) / 4 - 1
    groups := (groups.reverse.dropWhile (· == 0)).reverse }

def groupsValue (groups : List Nat) : Nat := groups.foldl (fun n g => 10000 * n + g) 0

def toExact (g : GroupedDecimal) : ExactDecimal :=
  if g.groups.isEmpty then ⟨0, 0⟩
  else
    let magnitude : Int := groupsValue g.groups
    ⟨if g.negative then -magnitude else magnitude, ((g.groups.length : Int) - g.weight - 1) * 4⟩

end GroupedDecimal

end Geoflow
