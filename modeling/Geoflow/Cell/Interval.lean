import Geoflow.Numeral

set_option autoImplicit false

namespace Geoflow

/-- A span of time. None of its parts is ever converted into another. -/
structure Interval where
  months : Int32
  days : Int32
  microseconds : Int64
  deriving DecidableEq, Repr

namespace Interval

def partOf (unit : List Char) (n : Int) : List (List Char) :=
  if n = 0 then []
  else [Numeral.ofInt n ++ ' ' :: unit ++ (if n = 1 then [] else ['s'])]

def fraction (micros : Nat) : List Char :=
  if micros = 0 then []
  else '.' :: ((Numeral.padded 6 micros).reverse.dropWhile (· == '0')).reverse

def clock (microseconds : Int) : List Char :=
  let total := microseconds.natAbs
  let seconds := total / 1000000
  (if microseconds < 0 then ['-'] else []) ++ Numeral.padded 2 (seconds / 3600)
    ++ ':' :: Numeral.padded 2 (seconds / 60 % 60) ++ ':' :: Numeral.padded 2 (seconds % 60)
    ++ fraction (total % 1000000)

/-- Years, months and days. Years and months have the sign of all months together. -/
def dateParts (i : Interval) : List (List Char) :=
  let months := i.months.toInt
  partOf "year".toList (months.tdiv 12) ++ partOf "mon".toList (months.tmod 12)
    ++ partOf "day".toList i.days.toInt

/-- The parts of the text; a clock stands where there is nothing else. -/
def parts (i : Interval) : List (List Char) :=
  let micros := i.microseconds.toInt
  i.dateParts ++ (if micros ≠ 0 ∨ i.dateParts.isEmpty then [clock micros] else [])

def joinParts : List (List Char) → List Char
  | [] => []
  | [part] => part
  | part :: rest => part ++ ' ' :: joinParts rest

def chars (i : Interval) : List Char := joinParts i.parts

def toText (i : Interval) : String := String.ofList i.chars

end Interval

end Geoflow
