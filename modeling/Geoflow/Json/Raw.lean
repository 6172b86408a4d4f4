import Geoflow.Numeral
import Geoflow.Text.Hex
import Geoflow.Text.Utf8
import Geoflow.Json.Basic

set_option autoImplicit false

namespace Geoflow.Json

structure NumberText where
  negative : Bool
  whole : List Char
  fraction : List Char
  /-- Whether the exponent is negative, and its digits. -/
  exponent : Option (Bool × List Char)
  deriving DecidableEq, Repr

/-- A JSON text as it was written: entries in their order with repeated names, numbers digit by
digit, and strings that have no meaning as such. Parts of a text that a reader passes over need only
be well-formed, so what a text means is a step of its own, `Raw.toJson?`. -/
inductive Raw where
  | null
  | bool (b : Bool)
  | number (n : NumberText)
  | string (s : Option String)
  | array (items : List Raw)
  | object (entries : List (Option String × Raw))

abbrev Input := List (Option Char)

def Input.ofString (s : String) : Input := s.toList.map some

/-- Octets as input, `none` for those that are no character; they may stand in a string only, and
such a string has no meaning. -/
def Input.ofOctets (bytes : List UInt8) : Input := (Utf8.scan bytes).map Utf8.Symbol.char?

def skipBlanks : Input → Input
  | some c :: rest =>
    if c = ' ' ∨ c = '\n' ∨ c = '\t' ∨ c = '\r' then skipBlanks rest else some c :: rest
  | input => input

def expect? : List Char → Input → Option Input
  | [], input => some input
  | c :: cs, some d :: rest => if c = d then expect? cs rest else none
  | _ :: _, _ => none

def takeDigits : Input → List Char × Input
  | some c :: rest =>
    if Numeral.isDigit c then
      let (ds, after) := takeDigits rest
      (c :: ds, after)
    else ([], some c :: rest)
  | input => ([], input)

inductive Part where
  | char (c : Char)
  /-- A number written as four hexadecimal digits. -/
  | unit (n : Nat)
  | stray
  deriving DecidableEq, Repr

def escape? (c : Char) : Option Char :=
  match c with
  | '"' => some '"'
  | '\\' => some '\\'
  | '/' => some '/'
  | 'b' => some '\x08'
  | 'f' => some '\x0c'
  | 'n' => some '\n'
  | 'r' => some '\r'
  | 't' => some '\t'
  | _ => none

def hexUnit? (a b c d : Char) : Option Nat := do
  let a ← Hex.charValue? a
  let b ← Hex.charValue? b
  let c ← Hex.charValue? c
  let d ← Hex.charValue? d
  return ((a * 16 + b) * 16 + c) * 16 + d

/-- The parts of a string literal after its opening quote, and what follows the closing one. -/
def stringParts? : Input → Option (List Part × Input)
  | some '"' :: rest => some ([], rest)
  | some '\\' :: some 'u' :: some a :: some b :: some c :: some d :: rest => do
    let n ← hexUnit? a b c d
    let (parts, after) ← stringParts? rest
    return (.unit n :: parts, after)
  | some '\\' :: some e :: rest => do
    let c ← escape? e
    let (parts, after) ← stringParts? rest
    return (.char c :: parts, after)
  | some '\\' :: _ => none
  | some c :: rest =>
    if c.toNat < 32 then none
    else (stringParts? rest).map fun (parts, after) => (.char c :: parts, after)
  | none :: rest => (stringParts? rest).map fun (parts, after) => (.stray :: parts, after)
  | [] => none

theorem stringParts?_close (rest : Input) : stringParts? (some '"' :: rest) = some ([], rest) := by
  rw [stringParts?]

/-- The text that parts stand for. Two numbers that are a surrogate pair are one character; an
unpaired surrogate and stray octets have no meaning. -/
def meaning? : List Part → Option (List Char)
  | [] => some []
  | .char c :: rest => (meaning? rest).map (c :: ·)
  | .stray :: _ => none
  | .unit high :: .unit low :: rest =>
    if 0xD800 ≤ high ∧ high < 0xDC00 then
      if 0xDC00 ≤ low ∧ low < 0xE000 then
        (meaning? rest).map
          (Char.ofNat (0x10000 + (high - 0xD800) * 1024 + (low - 0xDC00)) :: ·)
      else none
    else if 0xDC00 ≤ high ∧ high < 0xE000 then none
    else (meaning? (.unit low :: rest)).map (Char.ofNat high :: ·)
  | .unit n :: rest =>
    if 0xD800 ≤ n ∧ n < 0xE000 then none else (meaning? rest).map (Char.ofNat n :: ·)

theorem meaning?_char (c : Char) (parts : List Part) :
    meaning? (.char c :: parts) = (meaning? parts).map (c :: ·) := by
  rw [meaning?]

def string? (input : Input) : Option (Option String × Input) :=
  (stringParts? input).map fun (parts, after) => ((meaning? parts).map String.ofList, after)

/-- The whole part: a zero alone, or digits that do not start with zero. -/
def whole? (input : Input) : Option (List Char × Input) :=
  match takeDigits input with
  | ([], _) => none
  | (d :: ds, after) => if d = '0' ∧ !ds.isEmpty then none else some (d :: ds, after)

def fraction? : Input → Option (List Char × Input)
  | some '.' :: rest =>
    match takeDigits rest with
    | ([], _) => none
    | found => some found
  | input => some ([], input)

def exponentDigits? (negative : Bool) (input : Input) :
    Option (Option (Bool × List Char) × Input) :=
  match takeDigits input with
  | ([], _) => none
  | (ds, after) => some (some (negative, ds), after)

def exponent? : Input → Option (Option (Bool × List Char) × Input)
  | some c :: rest =>
    if c = 'e' ∨ c = 'E' then
      match rest with
      | some '-' :: rest => exponentDigits? true rest
      | some '+' :: rest => exponentDigits? false rest
      | _ => exponentDigits? false rest
    else some (none, some c :: rest)
  | input => some (none, input)

def unsigned? (negative : Bool) (input : Input) : Option (NumberText × Input) := do
  let (whole, afterWhole) ← whole? input
  let (fraction, afterFraction) ← fraction? afterWhole
  let (exponent, after) ← exponent? afterFraction
  return (⟨negative, whole, fraction, exponent⟩, after)

def number? : Input → Option (NumberText × Input)
  | some '-' :: rest => unsigned? true rest
  | input => unsigned? false input

mutual

/-- One value at the start of the input. The fuel bounds the nesting. -/
def value? : Nat → Input → Option (Raw × Input)
  | 0, _ => none
  | fuel + 1, input =>
    match skipBlanks input with
    | some '"' :: rest => (string? rest).map fun (s, after) => (.string s, after)
    | some '[' :: rest =>
      match skipBlanks rest with
      | some ']' :: after => some (.array [], after)
      | _ => (items? fuel rest).map fun (items, after) => (.array items, after)
    | some '\x7b' :: rest =>
      match skipBlanks rest with
      | some '\x7d' :: after => some (.object [], after)
      | _ => (entries? fuel rest).map fun (entries, after) => (.object entries, after)
    | some 'n' :: rest => (expect? ['u', 'l', 'l'] rest).map fun after => (.null, after)
    | some 't' :: rest => (expect? ['r', 'u', 'e'] rest).map fun after => (.bool true, after)
    | some 'f' :: rest => (expect? ['a', 'l', 's', 'e'] rest).map fun after => (.bool false, after)
    | input => (number? input).map fun (n, after) => (.number n, after)

def items? : Nat → Input → Option (List Raw × Input)
  | 0, _ => none
  | fuel + 1, input => do
    let (item, rest) ← value? fuel input
    match skipBlanks rest with
    | some ',' :: rest =>
      let (items, after) ← items? fuel rest
      return (item :: items, after)
    | some ']' :: after => return ([item], after)
    | _ => none

def entries? : Nat → Input → Option (List (Option String × Raw) × Input)
  | 0, _ => none
  | fuel + 1, input =>
    match skipBlanks input with
    | some '"' :: rest => do
      let (name, rest) ← string? rest
      match skipBlanks rest with
      | some ':' :: rest =>
        let (value, rest) ← value? fuel rest
        match skipBlanks rest with
        | some ',' :: rest =>
          let (entries, after) ← entries? fuel rest
          return ((name, value) :: entries, after)
        | some '\x7d' :: after => return ([(name, value)], after)
        | _ => none
      | _ => none
    | _ => none

end

@[simp] theorem value?_zero (input : Input) : value? 0 input = none := by rw [value?]

@[simp] theorem items?_zero (input : Input) : items? 0 input = none := by rw [items?]

@[simp] theorem entries?_zero (input : Input) : entries? 0 input = none := by rw [entries?]

/-- Reads a text that is one value, blanks around it aside. A value of `n` characters nests less
than `n` deep and has fewer than `n` items, so twice the length is fuel enough. -/
def Raw.parse? (input : Input) : Option Raw := do
  let (raw, rest) ← value? (2 * input.length + 2) input
  if (skipBlanks rest).isEmpty then return raw else none

/-- Appends digits to a number while the result fits 64 bits; gives the number and the digits that
were left. -/
def gather : Nat → List Char → Nat × List Char
  | n, [] => (n, [])
  | n, c :: rest =>
    let next := 10 * n + Numeral.digitValue c
    if next < UInt64.size then gather next rest else (n, c :: rest)

def largestPower : Nat := 308

/-- Divides by a power of ten, at most `10 ^ 308` at a time and rounding each time; zero stays. -/
def scaleDown (x : Binary64) : Nat → Nat → Binary64
  | 0, _ => x
  | fuel + 1, power =>
    if power ≤ largestPower then x.div (.ofRatio false (Nat.pow 10 power) 1)
    else if x.isZero then x
    else scaleDown (x.div (.ofRatio false (Nat.pow 10 largestPower) 1)) fuel (power - largestPower)

/-- Multiplies by a power of ten with one rounding; an infinite result has no value. -/
def scaleUp? (x : Binary64) (power : Nat) : Option Binary64 :=
  if power ≤ largestPower then
    let product := x.mul (.ofRatio false (Nat.pow 10 power) 1)
    if product.isFinite then some product else none
  else if x.isZero then some x
  else none

/-- The double of a written number that is not a whole number of the 64-bit ranges. The leading
digits that fit 64 bits are rounded first and then scaled, so the result may differ from the
nearest double in its last place. -/
def NumberText.toBinary64? (n : NumberText) : Option Binary64 :=
  let (wholePart, dropped) := gather 0 n.whole
  let (significand, ignored) := gather wholePart n.fraction
  let places : Int := (dropped.length : Int) - ((n.fraction.length - ignored.length : Nat) : Int)
  let exponent : Int := match n.exponent with
    | none => 0
    | some (negative, ds) => if negative then -(Numeral.value ds : Int) else Numeral.value ds
  let overlong : Bool := Nat.pow 2 31 ≤ exponent.natAbs
  let magnitude : Option Binary64 :=
    if overlong then
      if significand ≠ 0 ∧ 0 < exponent then none else some (.zero false)
    else
      let x := Binary64.ofRatio false significand 1
      let power := places + exponent
      if 0 ≤ power then scaleUp? x power.toNat
      else some (scaleDown x 4 power.natAbs)
  magnitude.map fun x => if n.negative then x.neg else x

/-- The value of a written number: a whole number of the 64-bit ranges, or a double. A negative
zero is a double. -/
def NumberText.toJson? (n : NumberText) : Option Json :=
  let magnitude := Numeral.value n.whole
  if n.fraction.isEmpty ∧ n.exponent.isNone ∧
      (if n.negative then 0 < magnitude ∧ magnitude ≤ Nat.pow 2 63
       else magnitude < UInt64.size) then
    some (.int (if n.negative then -(magnitude : Int) else magnitude))
  else n.toBinary64?.map .float

mutual

def Raw.toJson? : Raw → Nat → Option Json
  | .null, _ => some .null
  | .bool b, _ => some (.bool b)
  | .number n, _ => n.toJson?
  | .string s, _ => s.map .str
  | .array _, 0 => none
  | .array items, depth + 1 => (Raw.itemsToJson? items depth).map .arr
  | .object _, 0 => none
  | .object entries, depth + 1 => (Raw.entriesToJson? entries depth).map ofEntries

def Raw.itemsToJson? : List Raw → Nat → Option (List Json)
  | [], _ => some []
  | item :: items, depth => do
    let item ← item.toJson? depth
    let items ← Raw.itemsToJson? items depth
    return item :: items

def Raw.entriesToJson? : List (Option String × Raw) → Nat → Option (List (String × Json))
  | [], _ => some []
  | (name, value) :: entries, depth => do
    let name ← name
    let value ← value.toJson? depth
    let entries ← Raw.entriesToJson? entries depth
    return (name, value) :: entries

end

def depthLimit : Nat := 127

def parseInput? (input : Input) : Option Json := do
  (← Raw.parse? input).toJson? depthLimit

def parse? (s : String) : Option Json := parseInput? (.ofString s)

end Geoflow.Json
