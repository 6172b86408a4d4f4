import Geoflow.Cipher.Secret
import Geoflow.Proofs.Cipher.Gcm
import Geoflow.Proofs.Outcome
import Geoflow.Proofs.Text.Hex

set_option autoImplicit false

namespace Geoflow.Secret

variable {key encoded plaintext : String} {keyBytes nonce raw : List UInt8}

def wire (keyBytes nonce : List UInt8) (plaintext : String) : List UInt8 :=
  nonce ++ Gcm.encrypt keyBytes nonce (Utf8.encode plaintext.toList)

def Spells (encoded : String) (raw : List UInt8) : Prop :=
  encoded.toList.map Char.toLower = Hex.encode raw

theorem keyOctets_of_size (size : key.utf8ByteSize = keyLength) :
    keyOctets key = .ok (Utf8.encode key.toList) := by
  have length := Utf8.length_encode key
  rw [keyOctets]
  exact if_pos (length.trans size)

theorem keyOctets_of_other_size (size : key.utf8ByteSize ≠ keyLength) :
    keyOctets key = .error .keyLength := by
  have length := Utf8.length_encode key
  rw [keyOctets]
  exact if_neg (length ▸ size)

theorem decode_eq_ok_iff_spells :
    Hex.decode (Utf8.encode encoded.toList) = .ok raw ↔ Spells encoded raw :=
  Hex.decode_eq_ok_iff

theorem Spells.unique {raw' : List UInt8} (spells : Spells encoded raw)
    (spells' : Spells encoded raw') : raw = raw' :=
  Hex.encode_injective (spells.symm.trans spells')

theorem text_eq_ok_iff {bytes : List UInt8} :
    ((Utf8.decode bytes).map String.ofList |>.mapError SecretFault.notText) = .ok plaintext ↔
      bytes = Utf8.encode plaintext.toList := by
  rw [← Utf8.decode_eq_ok_iff]
  cases Utf8.decode bytes with
  | error fault => simp [Except.map, mapError_error]
  | ok cs =>
    simp only [Except.map, mapError_ok, Except.ok.injEq]
    constructor
    · intro same
      rw [← same, String.toList_ofList]
    · intro same
      rw [same, String.ofList_toList]

theorem decrypt_of_spells (keyed : keyOctets key = .ok keyBytes) (spells : Spells encoded raw)
    (long : nonceLength ≤ raw.length) :
    decrypt encoded key =
      match Gcm.decrypt? keyBytes (raw.take nonceLength) (raw.drop nonceLength) with
      | none => .error .notAuthentic
      | some bytes => (Utf8.decode bytes).map String.ofList |>.mapError SecretFault.notText := by
  have read := decode_eq_ok_iff_spells.mpr spells
  have notShort : ¬raw.length < nonceLength := Nat.not_lt.mpr long
  simp only [decrypt, keyed, read, mapError_ok, bind, Except.bind, if_neg notShort]
  rfl

theorem exists_spells_of_decrypt (keyed : keyOctets key = .ok keyBytes)
    (opened : decrypt encoded key = .ok plaintext) :
    ∃ raw, Spells encoded raw ∧ nonceLength ≤ raw.length := by
  simp only [decrypt, keyed, bind, Except.bind] at opened
  cases read : Hex.decode (Utf8.encode encoded.toList) with
  | error fault =>
    rw [read] at opened
    cases opened
  | ok raw =>
    refine ⟨raw, decode_eq_ok_iff_spells.mp read, Nat.le_of_not_lt fun short => ?_⟩
    simp only [read, mapError_ok, if_pos short] at opened
    cases opened

theorem take_wire (length : nonce.length = nonceLength) :
    (wire keyBytes nonce plaintext).take nonceLength = nonce := by
  rw [wire, ← length, List.take_left]

theorem length_wire (length : nonce.length = nonceLength) :
    (wire keyBytes nonce plaintext).length =
      nonceLength + plaintext.utf8ByteSize + Gcm.tagLength := by
  rw [wire, List.length_append, Gcm.length_encrypt, Utf8.length_encode, length, Nat.add_assoc]

theorem eq_wire_iff : raw = wire keyBytes (raw.take nonceLength) plaintext ↔
    raw.drop nonceLength =
      Gcm.encrypt keyBytes (raw.take nonceLength) (Utf8.encode plaintext.toList) := by
  have whole := List.take_append_drop nonceLength raw
  constructor
  · intro same
    exact List.append_cancel_left (whole.trans same)
  · intro same
    rw [wire, ← same, whole]

theorem decrypt_eq_ok_iff_wire (keyed : keyOctets key = .ok keyBytes)
    (spells : Spells encoded raw) (long : nonceLength ≤ raw.length) :
    decrypt encoded key = .ok plaintext ↔
      raw = wire keyBytes (raw.take nonceLength) plaintext := by
  rw [decrypt_of_spells keyed spells long, eq_wire_iff, ← Gcm.decrypt?_eq_some_iff]
  cases opened : Gcm.decrypt? keyBytes (raw.take nonceLength) (raw.drop nonceLength) with
  | none => simp
  | some bytes => simp only [text_eq_ok_iff, Option.some.injEq]

theorem decrypt_eq_ok_iff (keyed : keyOctets key = .ok keyBytes) :
    decrypt encoded key = .ok plaintext ↔
      ∃ nonce, nonce.length = nonceLength ∧ Spells encoded (wire keyBytes nonce plaintext) := by
  constructor
  · intro opened
    obtain ⟨raw, spells, long⟩ := exists_spells_of_decrypt keyed opened
    have whole := (decrypt_eq_ok_iff_wire keyed spells long).mp opened
    refine ⟨raw.take nonceLength, ?_, whole ▸ spells⟩
    rw [List.length_take]
    omega
  · intro ⟨nonce, length, spells⟩
    have long : nonceLength ≤ (wire keyBytes nonce plaintext).length := by
      rw [length_wire length]
      omega
    refine (decrypt_eq_ok_iff_wire keyed spells long).mpr ?_
    rw [take_wire length]

theorem encrypt_eq (keyed : keyOctets key = .ok keyBytes) :
    encrypt nonce plaintext key =
      .ok (String.ofList (Hex.encode (wire keyBytes nonce plaintext))) := by
  simp only [encrypt, keyed, bind, Except.bind, pure, Except.pure, wire]

theorem spells_encode (raw : List UInt8) : Spells (String.ofList (Hex.encode raw)) raw := by
  rw [Spells, String.toList_ofList, Hex.map_toLower_encode]

/-- Octets that differ in the tag only are not both a seal. -/
theorem decrypt_of_other_tag {encoded' : String} {front mark mark' : List UInt8}
    (keyed : keyOctets key = .ok keyBytes) (opened : decrypt encoded key = .ok plaintext)
    (spells : Spells encoded (front ++ mark)) (spells' : Spells encoded' (front ++ mark'))
    (length : mark.length = Gcm.tagLength) (length' : mark'.length = Gcm.tagLength)
    (other : mark' ≠ mark) : decrypt encoded' key = .error .notAuthentic := by
  obtain ⟨nonce, nonceSize, wireSpells⟩ := (decrypt_eq_ok_iff keyed).mp opened
  have whole := spells.unique wireSpells
  have size := congrArg List.length whole
  rw [List.length_append, length_wire nonceSize, length] at size
  -- The nonce ends before the tag begins, so both texts have it in common.
  have long : nonceLength ≤ front.length := by omega
  have takes (last : List UInt8) : (front ++ last).take nonceLength = front.take nonceLength :=
    List.take_append_of_le_length long
  have drops (last : List UInt8) :
      (front ++ last).drop nonceLength = front.drop nonceLength ++ last :=
    List.drop_append_of_le_length long
  have isSeal : front.drop nonceLength ++ mark =
      Gcm.encrypt keyBytes (front.take nonceLength) (Utf8.encode plaintext.toList) := by
    rw [← drops, ← takes mark, ← eq_wire_iff, whole, take_wire nonceSize]
  have refused := Gcm.decrypt?_eq_none_of_other_tag (Gcm.decrypt?_eq_some_iff.mpr isSeal)
    length length' other
  have enough : nonceLength ≤ (front ++ mark').length := by
    rw [List.length_append]
    omega
  rw [decrypt_of_spells keyed spells' enough, takes, drops, refused]

/-- Under the key, reading accepts the image of writing and nothing else. Texts of every length are
covered; the length limit of the mode is no part of the cipher here. -/
structure Exact (key : String) : Prop where
  opens : ∀ encoded plaintext, decrypt encoded key = .ok plaintext ↔
    ∃ nonce, nonce.length = nonceLength ∧
      Spells encoded (wire (Utf8.encode key.toList) nonce plaintext)
  /-- What is written is read back. Its length and its letters are fixed. -/
  roundTrip : ∀ plaintext (nonce : List UInt8), nonce.length = nonceLength →
    ∃ encoded, encrypt nonce plaintext key = .ok encoded ∧
      decrypt encoded key = .ok plaintext ∧
      encoded.length = 2 * (nonceLength + plaintext.utf8ByteSize + Gcm.tagLength) ∧
      ∀ c ∈ encoded.toList, c ∈ "0123456789abcdef".toList
  /-- A stored form that opens does not open with other octets as its last sixteen. -/
  forged : ∀ encoded encoded' plaintext (front mark mark' : List UInt8),
    decrypt encoded key = .ok plaintext →
    Spells encoded (front ++ mark) → Spells encoded' (front ++ mark') →
    mark.length = Gcm.tagLength → mark'.length = Gcm.tagLength → mark' ≠ mark →
    decrypt encoded' key = .error .notAuthentic

/-- Under the key, nothing is written or read, whatever the text is. -/
def Refused (key : String) : Prop :=
  ∀ (nonce : List UInt8) (text : String),
    encrypt nonce text key = .error .keyLength ∧ decrypt text key = .error .keyLength

theorem exact_of_size (size : key.utf8ByteSize = keyLength) : Exact key := by
  have keyed := keyOctets_of_size size
  refine ⟨fun _ _ => decrypt_eq_ok_iff keyed, ?_, ?_⟩
  · intro plaintext nonce length
    have spells := spells_encode (wire (Utf8.encode key.toList) nonce plaintext)
    refine ⟨_, encrypt_eq keyed, (decrypt_eq_ok_iff keyed).mpr ⟨nonce, length, spells⟩, ?_, ?_⟩
    · rw [String.length_ofList, Hex.length_encode, length_wire length]
    · intro c mem
      rw [String.toList_ofList] at mem
      exact Hex.mem_digits_of_mem_encode mem
  · intro encoded encoded' plaintext front mark mark' opened spells spells' length length' other
    exact decrypt_of_other_tag keyed opened spells spells' length length' other

theorem refused_of_other_size (size : key.utf8ByteSize ≠ keyLength) : Refused key := by
  intro nonce text
  have keyless := keyOctets_of_other_size size
  rw [encrypt, decrypt, keyless]
  exact ⟨rfl, rfl⟩

/-- A key has exactly 32 octets; under a key, what opens is exactly what is stored. -/
theorem exact_or_refused (key : String) :
    (key.utf8ByteSize = keyLength → Exact key) ∧ (key.utf8ByteSize ≠ keyLength → Refused key) :=
  ⟨exact_of_size, refused_of_other_size⟩

def sampleKey : String := "0123456789abcdef0123456789abcdef"

def sampleNonce : List UInt8 := [1, 2, 3, 4, 5, 6, 7, 8, 9, 10, 11, 12]

theorem exact_or_refused_sample :
    sampleKey.utf8ByteSize = keyLength ∧ sampleNonce.length = nonceLength ∧
      (∃ encoded, encrypt sampleNonce "p@ss" sampleKey = .ok encoded ∧
        decrypt encoded sampleKey = .ok "p@ss" ∧ encoded.length = 64) ∧
      "short".utf8ByteSize ≠ keyLength ∧ decrypt "00" "short" = .error .keyLength := by
  have size : sampleKey.utf8ByteSize = keyLength := by decide
  have short : "short".utf8ByteSize ≠ keyLength := by decide
  have stored := (exact_or_refused sampleKey).1 size
  obtain ⟨encoded, written, read, length, -⟩ := stored.roundTrip "p@ss" sampleNonce rfl
  have refused := (exact_or_refused "short").2 short
  exact ⟨size, rfl, ⟨encoded, written, read, length⟩, short, (refused [] "00").2⟩

end Geoflow.Secret
