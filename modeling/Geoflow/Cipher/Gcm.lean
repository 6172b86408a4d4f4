import Geoflow.Cipher.Aes

set_option autoImplicit false

namespace Geoflow.Gcm

def number (bytes : List UInt8) : Nat := bytes.foldl (fun n b => n * 256 + b.toNat) 0

def octets : Nat → Nat → List UInt8
  | 0, _ => []
  | count + 1, n => octets count (n / 256) ++ [UInt8.ofNat (n % 256)]

/-- The polynomial that products are reduced by, in the bit order of the mode. -/
def reduction : Nat := 0xE1 * Nat.pow 2 120

/-- Adds `y` for every bit of `x` from the highest on, halving `y` from bit to bit. -/
def mulBits (x : Nat) : Nat → Nat → Nat → Nat
  | 0, _, sum => sum
  | bits + 1, y, sum =>
    mulBits x bits (if y % 2 = 1 then (y / 2) ^^^ reduction else y / 2)
      (if x.testBit bits then sum ^^^ y else sum)

def mul (x y : Nat) : Nat := mulBits x 128 y 0

/-- The hash of the blocks from a place on, the last one filled with zeros. -/
def hashBlocks (subkey : Nat) (bytes : List UInt8) : Nat → Nat → Nat → Nat
  | 0, _, hash => hash
  | blocks + 1, start, hash =>
    hashBlocks subkey bytes blocks (start + 16)
      (mul (hash ^^^ number (Aes.blockAt (bytes.drop start |>.take 16) 0).toList) subkey)

def blockCount (length : Nat) : Nat := (length + 15) / 16

def hash (subkey : Nat) (bytes : List UInt8) : Nat :=
  mul (hashBlocks subkey bytes (blockCount bytes.length) 0 0 ^^^ (8 * bytes.length)) subkey

def counterBlock (nonce : List UInt8) (counter : Nat) : Aes.Block :=
  Aes.blockAt (nonce ++ octets 4 counter) 0

/-- Key stream for a number of octets. The counter 1 is left to the tag. -/
def keyStream (keys : List Aes.Block) (nonce : List UInt8) (length : Nat) : List UInt8 :=
  (List.range (blockCount length)).flatMap fun i =>
    (Aes.encryptBlock keys (counterBlock nonce (i + 2))).toList

def mask (keys : List Aes.Block) (nonce bytes : List UInt8) : List UInt8 :=
  List.zipWith (· ^^^ ·) bytes (keyStream keys nonce bytes.length)

def tag (keys : List Aes.Block) (nonce sealed : List UInt8) : List UInt8 :=
  let subkey := number (Aes.encryptBlock keys (Aes.blockAt [] 0)).toList
  let first := number (Aes.encryptBlock keys (counterBlock nonce 1)).toList
  octets 16 (hash subkey sealed ^^^ first)

/-- The sealed form of octets with its tag. -/
def encrypt (key nonce bytes : List UInt8) : List UInt8 :=
  let keys := Aes.roundKeys key
  let sealed := mask keys nonce bytes
  sealed ++ tag keys nonce sealed

def tagLength : Nat := 16

/-- Opens sealed octets, if their tag is right. -/
def decrypt? (key nonce bytes : List UInt8) : Option (List UInt8) :=
  if bytes.length < tagLength then none
  else
    let keys := Aes.roundKeys key
    let sealed := bytes.take (bytes.length - tagLength)
    if bytes.drop (bytes.length - tagLength) = tag keys nonce sealed then
      some (mask keys nonce sealed)
    else none

end Geoflow.Gcm
