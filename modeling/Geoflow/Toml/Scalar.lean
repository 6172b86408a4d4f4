import Geoflow.Binary64.Decimal
import Geoflow.Json.Basic
import Geoflow.Time.Civil
import Geoflow.Toml.Quoted

set_option autoImplicit false

namespace Geoflow.Toml

def ungrouped? (isDigit : Char → Bool) (cs : List Char) : Option (List Char) :=
  let groups := Text.splitAt '_' cs
  if groups.all fun g => !g.isEmpty && g.all isDigit then some groups.flatten else none

def signed : List Char → Bool × List Char
  | '-' :: rest => (true, rest)
  | '+' :: rest => (false, rest)
  | cs => (false, cs)

/-- The digits of a decimal whole number, with no leading zero but a zero alone. -/
def wholeDigits? (cs : List Char) : Option (List Char) :=
  match cs with
  | ['0'] => some cs
  | '0' :: _ => none
  | _ => ungrouped? Numeral.isDigit cs

def isHexDigit (c : Char) : Bool := (Hex.charValue? c).isSome

def held? (n : Int) : Option Int :=
  if Int64.minValue.toInt ≤ n ∧ n ≤ Int64.maxValue.toInt then some n else none

def based? (base : Nat) (isDigit : Char → Bool) (cs : List Char) : Option Int := do
  let digits ← ungrouped? isDigit cs
  let values ← digits.mapM Hex.charValue?
  held? (values.foldl (fun n d => base * n + d) 0 : Nat)

def integer? (cs : List Char) : Option Int :=
  match cs with
  | '0' :: 'x' :: rest => based? 16 isHexDigit rest
  | '0' :: 'o' :: rest => based? 8 (fun c => '0' ≤ c && c ≤ '7') rest
  | '0' :: 'b' :: rest => based? 2 (fun c => c == '0' || c == '1') rest
  | _ => do
    let (negative, rest) := signed cs
    let digits ← wholeDigits? rest
    let n : Int := Numeral.value digits
    held? (if negative then -n else n)

def exponentText? (cs : List Char) : Option (List Char) :=
  match cs with
  | '-' :: rest => (ungrouped? Numeral.isDigit rest).map ('-' :: ·)
  | '+' :: rest => ungrouped? Numeral.isDigit rest
  | _ => ungrouped? Numeral.isDigit cs

/-- A decimal number with a fraction or an exponent, as a plain literal. -/
def floatText? (cs : List Char) : Option (List Char) := do
  let isMark := fun c => c == 'e' || c == 'E'
  let mantissa := cs.takeWhile fun c => !isMark c
  let exponent := cs.dropWhile fun c => !isMark c
  let whole ← wholeDigits? (mantissa.takeWhile (· != '.'))
  let fraction ← match mantissa.dropWhile (· != '.') with
    | [] => some []
    | _ :: digits => (ungrouped? Numeral.isDigit digits).map ('.' :: ·)
  let exponent ← match exponent with
    | [] => if fraction.isEmpty then none else some []
    | _ :: rest => (exponentText? rest).map ('e' :: ·)
  some (whole ++ fraction ++ exponent)

def float? (cs : List Char) : Option Binary64 :=
  let (negative, rest) := signed cs
  if rest = "inf".toList then some (.infinity negative)
  else if rest = "nan".toList then Binary64.readSpecial? cs
  else do
    let text ← floatText? rest
    let d ← Decimal.read? (if negative then '-' :: text else text)
    let x := d.toBinary64
    if x = .infinity false then none else some x

def twoDigits? (greatest : Nat) : List Char → Option (Nat × List Char)
  | a :: b :: rest =>
    let n := Numeral.value [a, b]
    if Numeral.isDigit a ∧ Numeral.isDigit b ∧ n ≤ greatest then some (n, rest) else none
  | _ => none

def afterDate? : List Char → Option (List Char)
  | a :: b :: c :: d :: '-' :: rest => do
    let (month, rest) ← twoDigits? 12 rest
    match rest with
    | '-' :: rest => do
      let (day, rest) ← twoDigits? 31 rest
      let year ← Numeral.readNat? [a, b, c, d]
      if (⟨year, month, day⟩ : Time.Date).isValid then some rest else none
    | _ => none
  | _ => none

def afterClock? (cs : List Char) : Option (List Char) := do
  let (_, rest) ← twoDigits? 23 cs
  match rest with
  | ':' :: rest => do
    let (_, rest) ← twoDigits? 59 rest
    match rest with
    | ':' :: rest => do
      let (_, rest) ← twoDigits? 60 rest
      match rest with
      | '.' :: c :: rest =>
        if Numeral.isDigit c then some (rest.dropWhile Numeral.isDigit) else none
      | '.' :: [] => none
      | _ => some rest
    | _ => none
  | _ => none

def isOffset (cs : List Char) : Bool :=
  match cs with
  | [] => true
  | [c] => c == 'Z' || c == 'z'
  | c :: rest =>
    (c == '+' || c == '-') &&
      match twoDigits? 23 rest with
      | some (_, ':' :: minutes) => (twoDigits? 59 minutes).any fun r => r.2.isEmpty
      | _ => false

def isZonedClock (cs : List Char) : Bool := (afterClock? cs).any isOffset

/-- Whether a text is a date, a time of day, or both with a T between them. -/
def isMoment (cs : List Char) : Bool :=
  match afterDate? cs with
  | some [] => true
  | some (c :: rest) => (c == 'T' || c == 't') && isZonedClock rest
  | none => afterClock? cs == some []

/-- A date or time as a value: an object with one entry, so that it is never taken for a text. -/
def moment (cs : List Char) : Json := .obj [("$moment", .str (String.ofList cs))]

def word? (cs : List Char) : Option Json :=
  if cs = "true".toList then some (.bool true)
  else if cs = "false".toList then some (.bool false)
  else if isMoment cs then some (moment cs)
  else match float? cs with
    | some x => some (.float x)
    | none => (integer? cs).map .int

def isWordChar (c : Char) : Bool :=
  c.isAlphanum || c == '_' || c == '+' || c == '-' || c == '.' || c == ':'

/-- An unquoted value, and what follows it. A space may stand between a date and a time. -/
def scalar? (cs : List Char) : Option (Json × List Char) :=
  let word := cs.takeWhile isWordChar
  let rest := cs.dropWhile isWordChar
  match rest with
  | ' ' :: after =>
    let next := after.takeWhile isWordChar
    if afterDate? word = some [] ∧ isZonedClock next then
      some (moment (word ++ ' ' :: next), after.dropWhile isWordChar)
    else (word? word).map (·, rest)
  | _ => (word? word).map (·, rest)

end Geoflow.Toml
