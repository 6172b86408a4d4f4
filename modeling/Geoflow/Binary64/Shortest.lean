import Geoflow.Numeral
import Geoflow.Binary64.Decimal

set_option autoImplicit false

namespace Geoflow.Binary64

/-- The decimal order `p` of a positive ratio: `10 ^ (p - 1) ≤ num / den < 10 ^ p`. -/
def decimalOrder (num den : Nat) : Int :=
  if den ≤ num then (Numeral.digits (num / den)).length
  else
    let zeros := (Numeral.digits (den / num)).length - 1
    if num * Nat.pow 10 zeros = den then 1 - zeros else -zeros

inductive Tie where
  | up
  | even
  deriving DecidableEq, Repr

structure Digits where
  digits : Nat
  exponent : Int
  deriving DecidableEq, Repr

def Digits.readsBack (d : Digits) (x : Binary64) : Bool :=
  (Decimal.toBinary64 ⟨false, d.digits, d.exponent⟩).magnitude == x.magnitude

/-- The neighbours of `num / den` on the grid `10 ^ exponent`, the nearer one first. -/
def neighbours (tie : Tie) (num den : Nat) (exponent : Int) : List Digits :=
  let n := num * Nat.pow 10 (-exponent).toNat
  let d := den * Nat.pow 10 exponent.toNat
  let below := n / d
  let twice := 2 * (n % d)
  let upFirst := d < twice || (twice == d && (tie == .up || below % 2 == 1))
  let down : Digits := ⟨below, exponent⟩
  let up : Digits := ⟨below + 1, exponent⟩
  if upFirst then [up, down] else [down, up]

def firstHit (tie : Tie) (x : Binary64) (num den : Nat) (order : Int) : List Nat → Digits
  | [] => ⟨num, 0⟩
  | count :: rest =>
    match (neighbours tie num den (order - count)).find? (·.readsBack x) with
    | some d => d
    | none => firstHit tie x num den order rest

/-- The fewest digits that read back as a finite number that is not zero, and of those the nearest
to its exact value. Seventeen digits always read back. -/
def shortest (tie : Tie) (x : Binary64) : Digits :=
  let num := x.units
  let den := Nat.pow 2 1074
  firstHit tie x num den (decimalOrder num den) ((List.range 17).map (· + 1))

/-- Digits without trailing zeros, and the place of the decimal point counted from their left. -/
def placed (tie : Tie) (x : Binary64) : List Char × Int :=
  if x.isZero then (['0'], 1)
  else
    let d := shortest tie x
    let ds := Numeral.digits d.digits
    ((ds.reverse.dropWhile (· == '0')).reverse, ds.length + d.exponent)

def layOut (ds : List Char) (point : Int) : List Char :=
  if point ≤ 0 then "0.".toList ++ List.replicate (-point).toNat '0' ++ ds
  else
    let whole := ds.take point.toNat ++ List.replicate (point.toNat - ds.length) '0'
    let fraction := ds.drop point.toNat
    if fraction.isEmpty then whole else whole ++ '.' :: fraction

def withSign (x : Binary64) (cs : List Char) : String :=
  String.ofList (if x.isNegative then '-' :: cs else cs)

/-- The positional text: never an exponent, no trailing `.0`, and `NaN`, `inf` by name. -/
def toText (x : Binary64) : String :=
  if x.isNaN then "NaN"
  else if !x.isFinite then withSign x "inf".toList
  else
    let (ds, point) := placed .up x
    withSign x (layOut ds point)

/-- The text inside a JSON document: a whole number keeps `.0`, and outside `10 ^ -5 … 10 ^ 16` an
exponent is written, with its sign and at least two digits. -/
def toJsonText (x : Binary64) : String :=
  let (ds, point) := placed .even x
  if -5 < point ∧ point ≤ 16 then
    let cs := layOut ds point
    withSign x (if cs.contains '.' then cs else cs ++ ".0".toList)
  else
    let mantissa := ds.take 1 ++ (if ds.length = 1 then [] else '.' :: ds.drop 1)
    let exponent := point - 1
    let sign := if exponent < 0 then '-' else '+'
    withSign x (mantissa ++ 'e' :: sign :: Numeral.padded 2 exponent.natAbs)

end Geoflow.Binary64
