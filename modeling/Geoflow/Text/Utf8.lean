set_option autoImplicit false

namespace Geoflow.Utf8

/-- One step of reading octets; the longest run that could have started a character counts as one
stray. -/
inductive Symbol where
  | char (c : Char)
  /-- Octets that are no character; `cut` where the octets ended inside a character. -/
  | stray (count : Nat) (cut : Bool)
  deriving DecidableEq, Repr

def encode (cs : List Char) : List UInt8 := cs.flatMap String.utf8EncodeChar

def isTail (b : UInt8) : Bool := 0x80 ≤ b && b ≤ 0xBF

/-- The octets that may follow a first octet: fewer than all tails after four of them, so that a
character has one spelling and stays out of the surrogates and below `0x110000`. -/
def isSecond (first second : UInt8) : Bool :=
  if first == 0xE0 then 0xA0 ≤ second && second ≤ 0xBF
  else if first == 0xED then 0x80 ≤ second && second ≤ 0x9F
  else if first == 0xF0 then 0x90 ≤ second && second ≤ 0xBF
  else if first == 0xF4 then 0x80 ≤ second && second ≤ 0x8F
  else isTail second

def tailBits (b : UInt8) : Nat := b.toNat % 64

def scan : List UInt8 → List Symbol
  | [] => []
  | a :: afterA =>
    if a < 0x80 then .char (Char.ofNat a.toNat) :: scan afterA
    else if 0xC2 ≤ a && a ≤ 0xDF then
      match afterA with
      | [] => [.stray 1 true]
      | b :: afterB =>
        if isTail b then .char (Char.ofNat (a.toNat % 32 * 64 + tailBits b)) :: scan afterB
        else .stray 1 false :: scan (b :: afterB)
    else if 0xE0 ≤ a && a ≤ 0xEF then
      match afterA with
      | [] => [.stray 1 true]
      | b :: afterB =>
        if isSecond a b then
          match afterB with
          | [] => [.stray 2 true]
          | c :: afterC =>
            if isTail c then
              .char (Char.ofNat (a.toNat % 16 * 4096 + tailBits b * 64 + tailBits c)) :: scan afterC
            else .stray 2 false :: scan (c :: afterC)
        else .stray 1 false :: scan (b :: afterB)
    else if 0xF0 ≤ a && a ≤ 0xF4 then
      match afterA with
      | [] => [.stray 1 true]
      | b :: afterB =>
        if isSecond a b then
          match afterB with
          | [] => [.stray 2 true]
          | c :: afterC =>
            if isTail c then
              match afterC with
              | [] => [.stray 3 true]
              | d :: afterD =>
                if isTail d then
                  .char (Char.ofNat (a.toNat % 8 * 262144 + tailBits b * 4096 + tailBits c * 64
                    + tailBits d)) :: scan afterD
                else .stray 3 false :: scan (d :: afterD)
            else .stray 2 false :: scan (c :: afterC)
        else .stray 1 false :: scan (b :: afterB)
    else .stray 1 false :: scan afterA

theorem scan_one {a : UInt8} {rest : List UInt8} (code : a.toNat < 128) :
    scan (a :: rest) = .char (Char.ofNat a.toNat) :: scan rest := by
  have first : a < 0x80 := UInt8.lt_iff_toNat_lt.mpr code
  rw [scan.eq_def]
  simp only [first, if_true]

def Symbol.char? : Symbol → Option Char
  | .char c => some c
  | .stray .. => none

/-- The text with one replacement character for every stray. -/
def decodeLossy (bytes : List UInt8) : List Char :=
  (scan bytes).map fun s => s.char?.getD '\uFFFD'

/-- Where octets stop being text: how many were good, and what follows them. -/
structure Fault where
  index : Nat
  count : Nat
  cut : Bool
  deriving DecidableEq, Repr

def collect : Nat → List Symbol → Except Fault (List Char)
  | _, [] => .ok []
  | index, .char c :: rest => (collect (index + c.utf8Size) rest).map (c :: ·)
  | index, .stray count cut :: _ => .error ⟨index, count, cut⟩

def decode (bytes : List UInt8) : Except Fault (List Char) := collect 0 (scan bytes)

def Fault.message (f : Fault) : String :=
  if f.cut then "incomplete utf-8 byte sequence from index " ++ toString f.index
  else "invalid utf-8 sequence of " ++ toString f.count ++ " bytes from index " ++ toString f.index

end Geoflow.Utf8
