import Geoflow.Text.Blank

set_option autoImplicit false

namespace Geoflow.Domain

/-- A letter of a block where capitals and small letters take turns; a capital has the parity that
is given. -/
def turn (capital n : Nat) : Nat := if n % 2 = capital then n + 1 else n

def smallLatin? (n : Nat) : Option Nat :=
  if n = 0xD7 ∨ n = 0xF7 then some n
  else if 0xC0 ≤ n ∧ n ≤ 0xDE then some (n + 32)
  else if 0xDF ≤ n ∧ n ≤ 0xFF then some n
  else if n = 0x130 ∨ n = 0x132 ∨ n = 0x133 ∨ n = 0x13F ∨ n = 0x140 ∨ n = 0x149 ∨ n = 0x17F then
    none
  else if n = 0x138 then some n
  else if n = 0x178 then some 0xFF
  else if (0x100 ≤ n ∧ n ≤ 0x137) ∨ (0x14A ≤ n ∧ n ≤ 0x177) then some (turn 0 n)
  else if 0x139 ≤ n ∧ n ≤ 0x17E then some (turn 1 n)
  else none

def smallGreek? (n : Nat) : Option Nat :=
  if n = 0x386 then some 0x3AC
  else if 0x388 ≤ n ∧ n ≤ 0x38A then some (n + 37)
  else if n = 0x38C then some 0x3CC
  else if n = 0x38E ∨ n = 0x38F then some (n + 63)
  else if 0x391 ≤ n ∧ n ≤ 0x3AB ∧ n ≠ 0x3A2 then some (n + 32)
  else if n = 0x390 ∨ (0x3AC ≤ n ∧ n ≤ 0x3CE) then some n
  else none

def smallCyrillic? (n : Nat) : Option Nat :=
  if 0x400 ≤ n ∧ n ≤ 0x40F then some (n + 80)
  else if 0x410 ≤ n ∧ n ≤ 0x42F then some (n + 32)
  else if 0x430 ≤ n ∧ n ≤ 0x45F then some n
  else none

def isUncased (n : Nat) : Bool :=
  (0x3041 ≤ n && n ≤ 0x3096) || (0x30A1 ≤ n && n ≤ 0x30FA) || (0x4E00 ≤ n && n ≤ 0x9FFF) ||
    (0xAC00 ≤ n && n ≤ 0xD7A3)

/-- The character that stands for another in a name, wide forms for ASCII. Beyond ASCII only Latin,
Greek and Cyrillic letters, kana, ideographs and Korean syllables are known here: a host with a
letter of any other script (Arabic, Hebrew, Thai, Devanagari and so on) is refused, where the full
mapping tables of international names take it. -/
def normal? (c : Char) : Option Char :=
  let n := c.toNat
  if n < 128 then some c.toLower
  else if n = 0x3002 then some '.'
  else if 0xFF01 ≤ n ∧ n ≤ 0xFF5E then some (Char.ofNat (n - 0xFEE0)).toLower
  else if isUncased n then some c
  else (smallLatin? n <|> smallGreek? n <|> smallCyrillic? n).map Char.ofNat

/-- How many digits a number is expected to need, from the last one and the number of characters
so far. -/
def settle (delta : Nat) : Nat :=
  if _ : 455 < delta then settle (delta / 35) + 36 else 36 * delta / (delta + 38)
termination_by delta

def adapt (delta count : Nat) (isFirst : Bool) : Nat :=
  let halved := if isFirst then delta / 700 else delta / 2
  settle (halved + halved / count)

def threshold (place bias : Nat) : Nat := max 1 (min 26 (place - bias))

def digit (n : Nat) : Char := if n < 26 then Char.ofNat (97 + n) else Char.ofNat (22 + n)

def number (bias place n : Nat) : List Char :=
  let t := threshold place bias
  if _ : n < t then [digit n]
  else digit (t + (n - t) % (36 - t)) :: number bias (place + 36) ((n - t) / (36 - t))
termination_by n
decreasing_by
  have h : 1 ≤ threshold place bias := Nat.le_max_left _ _
  exact Nat.lt_of_le_of_lt (Nat.div_le_self _ _) (by omega)

/-- What is written so far: the distance since the last character, and how many characters are. -/
structure Progress where
  delta : Nat
  bias : Nat
  count : Nat
  isFirst : Bool
  written : List Char

def Progress.pass (n : Nat) (p : Progress) (c : Char) : Progress :=
  if c.toNat < n then { p with delta := p.delta + 1 }
  else if c.toNat = n then
    { delta := 0, bias := adapt p.delta (p.count + 1) p.isFirst, count := p.count + 1
      isFirst := false, written := p.written ++ number p.bias 36 p.delta }
  else p

def Progress.write (label : List Char) : Nat → Progress → List Nat → List Char
  | _, p, [] => p.written
  | last, p, n :: rest =>
    let near := { p with delta := p.delta + (n - last) * (p.count + 1) }
    let passed := label.foldl (Progress.pass n) near
    Progress.write label (n + 1) { passed with delta := passed.delta + 1 } rest

/-- The Punycode of a label: its ASCII characters, and for every other one, in the order of the code
points, how far it is from the one before, counting places and code points together. -/
def punycode (label : List Char) : List Char :=
  let basic := label.filter (·.toNat < 128)
  let others := (label.filter (128 ≤ ·.toNat)).map Char.toNat
  let ordered := (others.mergeSort (· ≤ ·)).eraseDups
  (if basic.isEmpty then [] else basic ++ ['-']) ++
    Progress.write label 128 ⟨0, 72, basic.length, true, []⟩ ordered

def label (cs : List Char) : List Char :=
  if cs.all (·.toNat < 128) then cs else "xn--".toList ++ punycode cs

def ascii? (cs : List Char) : Option (List Char) :=
  (cs.mapM normal?).map fun cs => Text.joined ['.'] ((Text.splitAt '.' cs).map label)

end Geoflow.Domain
