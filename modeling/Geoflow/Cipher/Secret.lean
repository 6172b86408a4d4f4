import Geoflow.Cipher.Gcm
import Geoflow.Numeral
import Geoflow.Text.Hex
import Geoflow.Text.Quoted
import Geoflow.Text.Utf8

set_option autoImplicit false

namespace Geoflow

inductive SecretFault where
  | keyLength
  | hex (fault : Hex.Fault)
  | tooShort
  | notAuthentic
  | notText (fault : Utf8.Fault)
  deriving DecidableEq, Repr

/-- A digit fault in words; an octet is shown as the character of its number. -/
def Hex.Fault.message : Hex.Fault → String
  | .oddLength => "Odd number of digits"
  | .badDigit octet position =>
    "Invalid character " ++ Text.quotedSingle (Char.ofNat octet.toNat) ++ " at position "
      ++ Numeral.ofNat position

def SecretFault.message : SecretFault → String
  | .keyLength => "AES key must be exactly 32 bytes"
  | .hex fault => fault.message
  | .tooShort => "ciphertext too short"
  | .notAuthentic => "decryption failed"
  | .notText fault => fault.message

namespace Secret

def errorCode : String := "CRYPTO_ERROR"

def errorText (text : String) : String := "Crypto error: " ++ text

def keyLength : Nat := 32

def nonceLength : Nat := 12

/-- The octets of a key text, if there are as many as a key has. -/
def keyOctets (key : String) : Except SecretFault (List UInt8) :=
  let bytes := Utf8.encode key.toList
  if bytes.length = keyLength then .ok bytes else .error .keyLength

/-- The stored form of a text under a key and a nonce of 12 octets: the hexadecimal text of the
nonce, the sealed octets and their tag. -/
def encrypt (nonce : List UInt8) (plaintext key : String) : Except SecretFault String := do
  let key ← keyOctets key
  return String.ofList (Hex.encode (nonce ++ Gcm.encrypt key nonce (Utf8.encode plaintext.toList)))

def decrypt (encoded key : String) : Except SecretFault String := do
  let key ← keyOctets key
  let raw ← (Hex.decode (Utf8.encode encoded.toList)).mapError SecretFault.hex
  if raw.length < nonceLength then throw .tooShort
  match Gcm.decrypt? key (raw.take nonceLength) (raw.drop nonceLength) with
  | none => throw .notAuthentic
  | some bytes => (Utf8.decode bytes).map String.ofList |>.mapError SecretFault.notText

end Secret

end Geoflow
