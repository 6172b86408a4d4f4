import Geoflow.Json.Reader
import Geoflow.Text.Blank
import Geoflow.Time.Civil

set_option autoImplicit false

namespace Geoflow

/-- Seconds from 1970-01-01 00:00:00 UTC and nanoseconds; in a leap second these are a thousand
million or more. -/
structure Instant where
  seconds : Int
  nanos : Nat
  deriving DecidableEq, Repr

namespace Instant

def epoch : Instant := ⟨0, 0⟩

def chars (t : Instant) : List Char :=
  (Time.Date.ofDays (t.seconds / 86400)).chars
    ++ 'T' :: Time.clockChars (t.seconds % 86400).toNat t.nanos

def toText (t : Instant) : String := String.ofList (t.chars ++ ['Z'])

def toOffsetText (t : Instant) : String := String.ofList (t.chars ++ "+00:00".toList)

inductive Fault where
  | outOfRange
  | impossible
  | invalid
  | tooShort
  | trailing
  deriving DecidableEq, Repr

def Fault.message : Fault → String
  | .outOfRange => "input is out of range"
  | .impossible => "no possible date and time matching input"
  | .invalid => "input contains invalid characters"
  | .tooShort => "premature end of input"
  | .trailing => "trailing input"

/-- A number of one digit at least and of `width` digits at most. It has 63 bits. -/
def number (width : Nat) (cs : List Char) : Except Fault (Nat × List Char) :=
  let ds := (cs.take width).takeWhile Numeral.isDigit
  match ds with
  | [] => .error (if cs.isEmpty then .tooShort else .invalid)
  | _ =>
    let n := Numeral.value ds
    if n < Nat.pow 2 63 then .ok (n, cs.drop ds.length) else .error .outOfRange

def skipBlanks (cs : List Char) : List Char := cs.dropWhile Text.isBlank

def numberWithin (width least greatest : Nat) (cs : List Char) :
    Except Fault (Nat × List Char) := do
  let (n, rest) ← number width (skipBlanks cs)
  if least ≤ n ∧ n ≤ greatest then return (n, rest) else throw .outOfRange

def year (cs : List Char) : Except Fault (Int × List Char) := do
  let (n, rest) ← match skipBlanks cs with
    | '-' :: rest => (number rest.length rest).map fun (n, rest) => (-(n : Int), rest)
    | '+' :: rest => (number rest.length rest).map fun (n, rest) => ((n : Int), rest)
    | cs => (number 4 cs).map fun (n, rest) => ((n : Int), rest)
  if Int32.minValue.toInt ≤ n ∧ n ≤ Int32.maxValue.toInt then return (n, rest)
  else throw .outOfRange

def mark (c : Char) (cs : List Char) : Except Fault (List Char) :=
  match skipBlanks cs with
  | [] => .error .tooShort
  | d :: rest => if d = c then .ok rest else .error .invalid

/-- A fraction of a second in nanoseconds; digits after the ninth are passed over. -/
def fraction (cs : List Char) : Except Fault (Nat × List Char) :=
  match cs with
  | '.' :: rest => do
    let (n, after) ← number 9 rest
    let digits := rest.length - after.length
    return (n * Nat.pow 10 (9 - digits), after.dropWhile Numeral.isDigit)
  | _ => .ok (0, cs)

def offsetMinutes : List Char → Except Fault (Nat × List Char)
  | a :: b :: rest =>
    if Numeral.isDigit a ∧ Numeral.isDigit b then
      if Numeral.digitValue a < 6 then .ok (Numeral.value [a, b], rest) else .error .outOfRange
    else .error .invalid
  | _ => .error .tooShort

/-- Hours and minutes of an offset after its sign, in seconds. Colons and blanks may stand between
them. -/
def offsetAmount : List Char → Except Fault (Nat × List Char)
  | a :: b :: rest =>
    if Numeral.isDigit a ∧ Numeral.isDigit b then do
      let (minutes, after) ← offsetMinutes (rest.dropWhile fun c => c == ':' || Text.isBlank c)
      return (Numeral.value [a, b] * 3600 + minutes * 60, after)
    else .error .invalid
  | _ => .error .tooShort

def offset (cs : List Char) : Except Fault (Int × List Char) :=
  match cs with
  | [] => .error .tooShort
  | c :: rest =>
    if (cs.take 3).map Char.toUpper = "UTC".toList then .ok (0, cs.drop 3)
    else if c = 'Z' ∨ c = 'z' then .ok (0, rest)
    else if c = '+' then (offsetAmount rest).map fun (n, after) => ((n : Int), after)
    else if c = '-' ∨ c = '\u2212' then
      (offsetAmount rest).map fun (n, after) => (-(n : Int), after)
    else .error .invalid

def yearLimit : Int := 262143

def readChars (cs : List Char) : Except Fault Instant := do
  let (year, cs) ← year cs
  let cs ← mark '-' cs
  let (month, cs) ← numberWithin 2 1 12 cs
  let cs ← mark '-' cs
  let (day, cs) ← numberWithin 2 1 31 cs
  let cs ← match cs with
    | [] => throw .tooShort
    | c :: rest => if c = 'T' ∨ c = 't' ∨ c = ' ' then pure rest else throw .invalid
  let (hour, cs) ← numberWithin 2 0 23 cs
  let cs ← mark ':' cs
  let (minute, cs) ← numberWithin 2 0 59 cs
  let cs ← mark ':' cs
  let (second, cs) ← numberWithin 2 0 60 cs
  let (nanos, cs) ← fraction cs
  let (offset, cs) ← offset (skipBlanks cs)
  if !(skipBlanks cs).isEmpty then throw .trailing
  let date : Time.Date := ⟨year, month, day⟩
  if !date.isValid ∨ year < -yearLimit ∨ yearLimit - 1 < year then throw .outOfRange
  if 86400 ≤ offset.natAbs then throw .outOfRange
  let leap := second = 60
  let clock := hour * 3600 + minute * 60 + (if leap then 59 else second)
  return ⟨date.toDays * 86400 + clock - offset, nanos + (if leap then 1000000000 else 0)⟩

/-- Reads the text of an instant, in a form somewhat wider than RFC 3339: blanks may stand between
the parts, the offset may be the word UTC, and years may have a sign. -/
def read (s : String) : Except Fault Instant := readChars s.toList

/-- The characters after a fixed shape, in which `d` stands for any digit. -/
def afterShape? : List Char → List Char → Option (List Char)
  | [], cs => some cs
  | 'd' :: shape, c :: rest => if Numeral.isDigit c then afterShape? shape rest else none
  | s :: shape, c :: rest => if s = c then afterShape? shape rest else none
  | _ :: _, [] => none

def isPlainOffset : List Char → Bool
  | [c] => c == 'Z' || c == 'z'
  | c :: rest =>
    (c == '+' || c == '-' || c == '\u2212') && afterShape? "dd:dd".toList rest == some []
  | [] => false

/-- Whether a text has exactly the form of RFC 3339, with all digits and no blanks. -/
def isPlain (cs : List Char) : Bool :=
  match afterShape? "dddd-dd-dd".toList cs with
  | some (sep :: rest) =>
    (sep == 'T' || sep == 't' || sep == ' ') &&
      match afterShape? "dd:dd:dd".toList rest with
      | some ('.' :: c :: rest) =>
        Numeral.isDigit c && isPlainOffset (rest.dropWhile Numeral.isDigit)
      | some rest => isPlainOffset rest
      | none => false
  | _ => false

def readPlain? (s : String) : Option Instant :=
  if isPlain s.toList then (read s).toOption else none

end Instant

def readInstant {δ : Type} [Document δ] (d : δ) : Except ReadError Instant :=
  match Document.view d with
  | .str s => (Instant.read s).mapError fun fault => .malformed fault.message
  | other => .error (other.mismatch "an RFC 3339 formatted date and time string")

def Instant.toJson (t : Instant) : Json := .str t.toText

end Geoflow
