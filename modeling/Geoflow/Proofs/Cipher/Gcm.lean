import Geoflow.Cipher.Gcm

set_option autoImplicit false

namespace Geoflow.Gcm

variable {key nonce bytes plain : List UInt8}

theorem length_octets (count n : Nat) : (octets count n).length = count := by
  induction count generalizing n with
  | zero => rfl
  | succ count ih => rw [octets, List.length_append, ih, List.length_singleton]

theorem length_tag (keys : List Aes.Block) (nonce sealed : List UInt8) :
    (tag keys nonce sealed).length = tagLength :=
  length_octets 16 _

theorem length_keyStream (keys : List Aes.Block) (nonce : List UInt8) (length : Nat) :
    (keyStream keys nonce length).length = 16 * blockCount length := by
  have block : ∀ b : Aes.Block, b.toList.length = 16 := fun _ => rfl
  simp only [keyStream, List.length_flatMap, block, List.map_const', List.length_range,
    List.sum_replicate_nat]
  omega

theorem le_length_keyStream (keys : List Aes.Block) (nonce : List UInt8) (length : Nat) :
    length ≤ (keyStream keys nonce length).length := by
  rw [length_keyStream, blockCount]
  omega

theorem length_mask (keys : List Aes.Block) (nonce bytes : List UInt8) :
    (mask keys nonce bytes).length = bytes.length := by
  have enough := le_length_keyStream keys nonce bytes.length
  rw [mask, List.length_zipWith]
  omega

theorem zipWith_xor_zipWith_xor {stream : List UInt8} (enough : bytes.length ≤ stream.length) :
    List.zipWith (· ^^^ ·) (List.zipWith (· ^^^ ·) bytes stream) stream = bytes := by
  induction bytes generalizing stream with
  | nil => rfl
  | cons b bytes ih =>
    cases stream with
    | nil => cases enough
    | cons k stream =>
      have rest := ih (Nat.le_of_succ_le_succ enough)
      have back : b ^^^ k ^^^ k = b := by rw [UInt8.xor_assoc, UInt8.xor_self, UInt8.xor_zero]
      rw [List.zipWith_cons_cons, List.zipWith_cons_cons, rest, back]

/-- Masked octets have the length of the octets, so they are masked by the same key stream. -/
theorem mask_mask (keys : List Aes.Block) (nonce bytes : List UInt8) :
    mask keys nonce (mask keys nonce bytes) = bytes := by
  have stream := zipWith_xor_zipWith_xor (le_length_keyStream keys nonce bytes.length)
  rw [mask, length_mask]
  exact stream

theorem length_encrypt (key nonce bytes : List UInt8) :
    (encrypt key nonce bytes).length = bytes.length + tagLength := by
  rw [encrypt, List.length_append, length_mask, length_tag]

theorem decrypt?_encrypt (key nonce bytes : List UInt8) :
    decrypt? key nonce (encrypt key nonce bytes) = some bytes := by
  have length := length_encrypt key nonce bytes
  have front : (encrypt key nonce bytes).length - tagLength =
      (mask (Aes.roundKeys key) nonce bytes).length := by
    rw [length, length_mask, Nat.add_sub_cancel]
  rw [decrypt?, if_neg (by omega)]
  simp only [front]
  rw [encrypt, List.take_left, List.drop_left, if_pos rfl, mask_mask]

/-- Opening succeeds on what sealing gives for the same key and nonce, and on nothing else. What the
block cipher and the hash compute does not matter for that, only how long the key stream and the tag
are. -/
theorem decrypt?_eq_some_iff :
    decrypt? key nonce bytes = some plain ↔ bytes = encrypt key nonce plain := by
  constructor
  · intro opened
    unfold decrypt? at opened
    split at opened
    · cases opened
    · dsimp only at opened
      split at opened
      · rename_i right
        cases opened
        rw [encrypt, mask_mask, ← right, List.take_append_drop]
      · cases opened
  · intro isSealed
    rw [isSealed, decrypt?_encrypt]

theorem decrypt?_eq_none_of_other_tag {front mark mark' : List UInt8}
    (opened : decrypt? key nonce (front ++ mark) = some plain) (length : mark.length = tagLength)
    (length' : mark'.length = tagLength) (other : mark' ≠ mark) :
    decrypt? key nonce (front ++ mark') = none := by
  have isTag : ∀ {last : List UInt8} {opens : List UInt8}, last.length = tagLength →
      decrypt? key nonce (front ++ last) = some opens →
        last = tag (Aes.roundKeys key) nonce front := by
    intro last opens lastLength found
    have spelled := decrypt?_eq_some_iff.mp found
    rw [encrypt] at spelled
    obtain ⟨same, sameTag⟩ := List.append_inj' spelled (by rw [lastLength, length_tag])
    rw [sameTag, same]
  cases found : decrypt? key nonce (front ++ mark') with
  | none => rfl
  | some opens => exact absurd ((isTag length' found).trans (isTag length opened).symm) other

end Geoflow.Gcm
