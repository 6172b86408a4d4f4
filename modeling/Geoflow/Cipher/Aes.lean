set_option autoImplicit false

namespace Geoflow.Aes

structure Word where
  a : UInt8
  b : UInt8
  c : UInt8
  d : UInt8
  deriving DecidableEq, Repr

/-- Sixteen octets, by columns; a round key is one too. -/
structure Block where
  w0 : Word
  w1 : Word
  w2 : Word
  w3 : Word
  deriving DecidableEq, Repr

namespace Word

def xor (x y : Word) : Word := ⟨x.a ^^^ y.a, x.b ^^^ y.b, x.c ^^^ y.c, x.d ^^^ y.d⟩

def map (f : UInt8 → UInt8) (x : Word) : Word := ⟨f x.a, f x.b, f x.c, f x.d⟩

def rotate (x : Word) : Word := ⟨x.b, x.c, x.d, x.a⟩

def toList (x : Word) : List UInt8 := [x.a, x.b, x.c, x.d]

end Word

namespace Block

def xor (x y : Block) : Block := ⟨x.w0.xor y.w0, x.w1.xor y.w1, x.w2.xor y.w2, x.w3.xor y.w3⟩

def map (f : Word → Word) (x : Block) : Block := ⟨f x.w0, f x.w1, f x.w2, f x.w3⟩

def toList (x : Block) : List UInt8 :=
  x.w0.toList ++ x.w1.toList ++ x.w2.toList ++ x.w3.toList

end Block

def octetAt (bytes : List UInt8) (i : Nat) : UInt8 := bytes.getD i 0

def wordAt (bytes : List UInt8) (i : Nat) : Word :=
  ⟨octetAt bytes i, octetAt bytes (i + 1), octetAt bytes (i + 2), octetAt bytes (i + 3)⟩

/-- The block that starts at a place; octets beyond the end count as zero. -/
def blockAt (bytes : List UInt8) (i : Nat) : Block :=
  ⟨wordAt bytes i, wordAt bytes (i + 4), wordAt bytes (i + 8), wordAt bytes (i + 12)⟩

/-- Multiplication by the element `x`, modulo `x⁸ + x⁴ + x³ + x + 1`. -/
def double (b : UInt8) : UInt8 := (b <<< 1) ^^^ (if b < 0x80 then 0 else 0x1B)

def mulBits : Nat → UInt8 → UInt8 → UInt8
  | 0, _, _ => 0
  | bits + 1, x, y =>
    (if y &&& 1 = 1 then x else 0) ^^^ mulBits bits (double x) (y >>> 1)

def mul (x y : UInt8) : UInt8 := mulBits 8 x y

/-- The inverse, `x ^ 254`; zero is its own. -/
def inverse (x : UInt8) : UInt8 :=
  let x2 := mul x x
  let x3 := mul x2 x
  let x12 := mul (mul x3 x3) (mul x3 x3)
  let x15 := mul x12 x3
  let x60 := mul (mul x15 x15) (mul x15 x15)
  let x120 := mul x60 x60
  let x126 := mul x120 (mul x3 x3)
  let x127 := mul x126 x
  mul x127 x127

def rotateLeft (b : UInt8) (k : UInt8) : UInt8 := (b <<< k) ||| (b >>> (8 - k))

def substitute (b : UInt8) : UInt8 :=
  let i := inverse b
  i ^^^ rotateLeft i 1 ^^^ rotateLeft i 2 ^^^ rotateLeft i 3 ^^^ rotateLeft i 4 ^^^ 0x63

def substitutions : Array UInt8 := Array.ofFn (n := 256) fun i => substitute (UInt8.ofNat i.val)

def subByte (b : UInt8) : UInt8 := substitutions.getD b.toNat 0

/-- Two round keys, the unit in which the schedule goes on. -/
structure KeyPair where
  first : Block
  second : Block

def KeyPair.next (constant : UInt8) (k : KeyPair) : KeyPair :=
  let mixed := (k.second.w3.rotate.map subByte).xor ⟨constant, 0, 0, 0⟩
  let a0 := k.first.w0.xor mixed
  let a1 := k.first.w1.xor a0
  let a2 := k.first.w2.xor a1
  let a3 := k.first.w3.xor a2
  let b0 := k.second.w0.xor (a3.map subByte)
  let b1 := k.second.w1.xor b0
  let b2 := k.second.w2.xor b1
  let b3 := k.second.w3.xor b2
  ⟨⟨a0, a1, a2, a3⟩, ⟨b0, b1, b2, b3⟩⟩

def schedule : Nat → UInt8 → KeyPair → List Block
  | 0, _, _ => []
  | pairs + 1, constant, k =>
    k.first :: k.second :: schedule pairs (double constant) (k.next constant)

def roundKeys (key : List UInt8) : List Block :=
  (schedule 8 1 ⟨blockAt key 0, blockAt key 16⟩).take 15

/-- Row `r` of the state moves `r` columns to the left. -/
def shiftRows (s : Block) : Block :=
  ⟨⟨s.w0.a, s.w1.b, s.w2.c, s.w3.d⟩, ⟨s.w1.a, s.w2.b, s.w3.c, s.w0.d⟩,
    ⟨s.w2.a, s.w3.b, s.w0.c, s.w1.d⟩, ⟨s.w3.a, s.w0.b, s.w1.c, s.w2.d⟩⟩

def mixColumn (x : Word) : Word :=
  let all := x.a ^^^ x.b ^^^ x.c ^^^ x.d
  ⟨x.a ^^^ all ^^^ double (x.a ^^^ x.b), x.b ^^^ all ^^^ double (x.b ^^^ x.c),
    x.c ^^^ all ^^^ double (x.c ^^^ x.d), x.d ^^^ all ^^^ double (x.d ^^^ x.a)⟩

def substituteAndShift (s : Block) : Block := shiftRows (s.map (Word.map subByte))

/-- The rounds after the first key; the last one does not mix columns. -/
def rounds : List Block → Block → Block
  | [], s => s
  | [key], s => (substituteAndShift s).xor key
  | key :: keys, s => rounds keys (((substituteAndShift s).map mixColumn).xor key)

def encryptBlock (keys : List Block) (s : Block) : Block :=
  match keys with
  | [] => s
  | key :: keys => rounds keys (s.xor key)

end Geoflow.Aes
