import Geoflow.Proofs.Text.Utf8
import Geoflow.Text.Hex

set_option autoImplicit false

namespace Geoflow

namespace Hex

variable {c : Char} {k n : Nat} {b high low : UInt8} {cs : List Char} {bytes text : List UInt8}

theorem codeValue?_eq_some_iff : codeValue? k = some n ↔
    (48 ≤ k ∧ k ≤ 57 ∧ n = k - 48) ∨ (97 ≤ k ∧ k ≤ 102 ∧ n = k - 87) ∨
      (65 ≤ k ∧ k ≤ 70 ∧ n = k - 55) := by
  unfold codeValue?
  repeat' split
  all_goals
    simp only [Option.some.injEq, reduceCtorEq, false_iff]
    omega

theorem toNat_digit (small : n < 16) : (digit n).toNat = if n < 10 then 48 + n else 87 + n := by
  have all : ∀ n < 16, (digit n).toNat = if n < 10 then 48 + n else 87 + n := by decide
  exact all n small

theorem toNat_toLower (c : Char) :
    c.toLower.toNat = if 65 ≤ c.toNat ∧ c.toNat ≤ 90 then c.toNat + 32 else c.toNat := by
  have bounds : (c.val ≥ 'A'.val ∧ c.val ≤ 'Z'.val) ↔ 65 ≤ c.toNat ∧ c.toNat ≤ 90 :=
    and_congr UInt32.le_iff_toNat_le UInt32.le_iff_toNat_le
  unfold Char.toLower
  by_cases upper : 65 ≤ c.toNat ∧ c.toNat ≤ 90
  · rw [dif_pos (bounds.mpr upper), if_pos upper]
    change (c.val + ('a'.val - 'A'.val)).toNat = c.toNat + 32
    have value : c.val.toNat = c.toNat := rfl
    rw [UInt32.toNat_add, value]
    change (c.toNat + 32) % 4294967296 = _
    omega
  · rw [dif_neg (fun inside => upper (bounds.mp inside)), if_neg upper]

/-- A digit stands for a number in either case. -/
theorem charValue?_eq_some_iff : charValue? c = some n ↔ n < 16 ∧ c.toLower = digit n := by
  have lower := toNat_toLower c
  rw [charValue?, codeValue?_eq_some_iff]
  constructor
  · intro value
    have small : n < 16 := by omega
    have code := toNat_digit small
    refine ⟨small, Char.toNat_inj.mp ?_⟩
    rw [code, lower]
    split <;> split <;> omega
  · intro ⟨small, same⟩
    have code := toNat_digit small
    rw [← same, lower] at code
    split at code <;> split at code <;> omega

theorem digit_mod (n : Nat) : digit (n % 16) = digit n := by
  rw [digit, digit, Nat.mod_mod]

def charOf (b : UInt8) : Char := Char.ofNat b.toNat

theorem toNat_charOf (b : UInt8) : (charOf b).toNat = b.toNat := by
  have bound := b.toNat_lt
  exact Utf8.toNat_ofNat_char (by omega) (by omega)

theorem digitValue?_eq : digitValue? b = charValue? (charOf b) := by
  rw [digitValue?, charValue?, toNat_charOf]

/-- Octets that are all ASCII come from characters that are. -/
theorem map_charOf_encode (ascii : ∀ b ∈ Utf8.encode cs, b.toNat < 128) :
    (Utf8.encode cs).map charOf = cs := by
  induction cs with
  | nil => rfl
  | cons c rest ih =>
    rw [Utf8.encode_cons] at ascii ⊢
    have later : ∀ b ∈ Utf8.encode rest, b.toNat < 128 :=
      fun b mem => ascii b (List.mem_append_right _ mem)
    by_cases one : c.toNat < 128
    · have code : (UInt8.ofNat c.toNat).toNat = c.toNat := Utf8.toNat_ofNat_of_lt (by omega)
      rw [Utf8.encodeChar_one one, List.map_append, ih later, List.map_singleton, charOf, code,
        Char.ofNat_toNat, List.singleton_append]
    · obtain ⟨first, mem⟩ := List.exists_mem_of_ne_nil _ (Utf8.encodeChar_ne_nil c)
      have high := Utf8.encodeChar_high (Nat.le_of_not_lt one) first mem
      have low := ascii first (List.mem_append_left _ mem)
      omega

theorem encode_map_charOf (ascii : ∀ c ∈ cs, c.toNat < 128) :
    (Utf8.encode cs).map charOf = cs := by
  refine map_charOf_encode fun b mem => ?_
  obtain ⟨c, inText, form⟩ := List.mem_flatMap.mp mem
  have small := ascii c inText
  rw [Utf8.encodeChar_one small, List.mem_singleton] at form
  have code : (UInt8.ofNat c.toNat).toNat = c.toNat := Utf8.toNat_ofNat_of_lt (by omega)
  rwa [form, code]

theorem octet_eq_of_digits (highDigit : (charOf high).toLower = digit k)
    (lowDigit : (charOf low).toLower = digit n) (smallHigh : k < 16) (smallLow : n < 16) :
    [(charOf high).toLower, (charOf low).toLower] = octet (UInt8.ofNat (16 * k + n)) := by
  have code : (UInt8.ofNat (16 * k + n)).toNat = 16 * k + n := Utf8.toNat_ofNat_of_lt (by omega)
  have front : (16 * k + n) / 16 = k := by omega
  have back : digit (16 * k + n) = digit n := by
    rw [← digit_mod (16 * k + n), ← digit_mod n]
    congr 1
    omega
  rw [octet, code, front, back, highDigit, lowDigit]

theorem octet_injective {x y : UInt8} (same : octet x = octet y) : x = y := by
  have boundX := x.toNat_lt
  have boundY := y.toNat_lt
  have number : ∀ {m n : Nat}, digit m = digit n → m % 16 = n % 16 := by
    intro m n equal
    have codeM := toNat_digit (n := m % 16) (by omega)
    have codeN := toNat_digit (n := n % 16) (by omega)
    rw [digit_mod] at codeM codeN
    rw [equal, codeN] at codeM
    split at codeM <;> split at codeM <;> omega
  obtain ⟨front, back⟩ := List.cons.inj same
  have high := number front
  have low := number (List.cons.inj back).1
  apply UInt8.toNat_inj.mp
  omega

theorem encode_cons (b : UInt8) (bytes : List UInt8) :
    encode (b :: bytes) = octet b ++ encode bytes := rfl

theorem decodeFrom_pair {position : Nat} {rest : List UInt8}
    (highValue : digitValue? high = some k) (lowValue : digitValue? low = some n)
    (later : ∀ {bytes}, decodeFrom (position + 2) rest = .ok bytes ↔
      rest.map (fun b => (charOf b).toLower) = encode bytes) :
    (decodeFrom (position + 2) rest).map (UInt8.ofNat (16 * k + n) :: ·) = .ok bytes ↔
      (high :: low :: rest).map (fun b => (charOf b).toLower) = encode bytes := by
  obtain ⟨smallHigh, highDigit⟩ := charValue?_eq_some_iff.mp (digitValue?_eq ▸ highValue)
  obtain ⟨smallLow, lowDigit⟩ := charValue?_eq_some_iff.mp (digitValue?_eq ▸ lowValue)
  have form : (high :: low :: rest).map (fun b => (charOf b).toLower) =
      octet (UInt8.ofNat (16 * k + n)) ++ rest.map (fun b => (charOf b).toLower) := by
    rw [← octet_eq_of_digits highDigit lowDigit smallHigh smallLow]
    rfl
  rw [form]
  cases bytes with
  | nil => cases read : decodeFrom (position + 2) rest <;> simp [Except.map, encode, octet]
  | cons b bytes =>
    have split : octet (UInt8.ofNat (16 * k + n)) ++ rest.map (fun b => (charOf b).toLower) =
        octet b ++ encode bytes ↔ UInt8.ofNat (16 * k + n) = b ∧
          rest.map (fun b => (charOf b).toLower) = encode bytes := by
      constructor
      · intro same
        obtain ⟨front, back⟩ := List.append_inj same rfl
        exact ⟨octet_injective front, back⟩
      · intro ⟨front, back⟩
        rw [front, back]
    rw [encode_cons, split, ← later]
    cases read : decodeFrom (position + 2) rest <;> simp [Except.map]

theorem decodeFrom_eq_ok_iff {position : Nat} (even : text.length % 2 = 0) :
    decodeFrom position text = .ok bytes ↔
      text.map (fun b => (charOf b).toLower) = encode bytes := by
  have noDigit : ∀ {b : UInt8} {m : Nat}, digitValue? b = none → (charOf b).toLower ≠ digit m := by
    intro b m none same
    have value :=
      charValue?_eq_some_iff.mpr ⟨Nat.mod_lt m (by omega), same.trans (digit_mod m).symm⟩
    rw [← digitValue?_eq, none] at value
    cases value
  fun_induction decodeFrom position text generalizing bytes with
  | case1 position high low rest k n lowValue highValue ih =>
    have evenRest : rest.length % 2 = 0 := by
      simp only [List.length_cons] at even
      omega
    exact decodeFrom_pair highValue lowValue (ih evenRest)
  | case2 position high low rest none =>
    cases bytes with
    | nil => simp [encode]
    | cons b bytes => simp [encode_cons, octet, noDigit none]
  | case3 position high low rest none =>
    cases bytes with
    | nil => simp [encode]
    | cons b bytes => simp [encode_cons, octet, noDigit none]
  | case4 text position short =>
    cases text with
    | nil => cases bytes <;> simp [encode, octet]
    | cons high rest =>
      cases rest with
      | nil => cases even
      | cons low rest => exact (short high low rest rfl).elim

theorem length_encode (bytes : List UInt8) : (encode bytes).length = 2 * bytes.length := by
  induction bytes with
  | nil => rfl
  | cons b bytes ih =>
    rw [encode_cons, List.length_append, ih, List.length_cons]
    change 2 + 2 * bytes.length = 2 * (bytes.length + 1)
    omega

theorem exists_digit_of_mem_encode (mem : c ∈ encode bytes) : ∃ n < 16, c = digit n := by
  obtain ⟨b, -, inOctet⟩ := List.mem_flatMap.mp mem
  rw [octet, List.mem_cons, List.mem_singleton] at inOctet
  rcases inOctet with front | back
  · exact ⟨_, Nat.mod_lt _ (by omega), front.trans (digit_mod _).symm⟩
  · exact ⟨_, Nat.mod_lt _ (by omega), back.trans (digit_mod _).symm⟩

theorem mem_digits_of_mem_encode (mem : c ∈ encode bytes) : c ∈ "0123456789abcdef".toList := by
  have all : ∀ n < 16, digit n ∈ "0123456789abcdef".toList := by decide
  obtain ⟨n, small, form⟩ := exists_digit_of_mem_encode mem
  exact form ▸ all n small

theorem toLower_digit (small : n < 16) : (digit n).toLower = digit n := by
  have code := toNat_digit small
  refine Char.toNat_inj.mp ?_
  rw [toNat_toLower, code]
  split <;> split <;> omega

theorem lt_of_toLower_mem_encode (mem : c.toLower ∈ encode bytes) : c.toNat < 128 := by
  obtain ⟨n, small, form⟩ := exists_digit_of_mem_encode mem
  have code := toNat_digit small
  rw [← form, toNat_toLower] at code
  split at code <;> split at code <;> omega

theorem map_toLower_encode (bytes : List UInt8) :
    (encode bytes).map Char.toLower = encode bytes := by
  have same : ∀ c ∈ encode bytes, c.toLower = id c := by
    intro c mem
    obtain ⟨n, small, form⟩ := exists_digit_of_mem_encode mem
    rw [form, toLower_digit small, id]
  rw [List.map_congr_left same, List.map_id]

/-- A text is read as octets exactly if its small form is what is written for them. -/
theorem decode_eq_ok_iff :
    decode (Utf8.encode cs) = .ok bytes ↔ cs.map Char.toLower = encode bytes := by
  constructor
  · intro read
    rw [decode] at read
    split at read
    · cases read
    · rename_i notOdd
      have same := (decodeFrom_eq_ok_iff (by omega)).mp read
      have ascii : ∀ b ∈ Utf8.encode cs, b.toNat < 128 := by
        intro b mem
        have digit : (charOf b).toLower ∈ encode bytes := by
          rw [← same]
          exact List.mem_map_of_mem mem
        have bound := lt_of_toLower_mem_encode digit
        rwa [toNat_charOf] at bound
      rw [← same, ← map_charOf_encode ascii, List.map_map, map_charOf_encode ascii]
      rfl
  · intro same
    have ascii : ∀ c ∈ cs, c.toNat < 128 := by
      intro c mem
      have digit : c.toLower ∈ encode bytes := by
        rw [← same]
        exact List.mem_map_of_mem mem
      exact lt_of_toLower_mem_encode digit
    have chars := encode_map_charOf ascii
    have small : (Utf8.encode cs).map (fun b => (charOf b).toLower) = encode bytes := by
      rw [← same, ← chars, List.map_map, chars]
      rfl
    have length : (Utf8.encode cs).length = 2 * bytes.length := by
      rw [← length_encode, ← small, List.length_map]
    rw [decode, if_neg (by omega)]
    exact (decodeFrom_eq_ok_iff (by omega)).mpr small

theorem encode_injective {bytes' : List UInt8} (same : encode bytes = encode bytes') :
    bytes = bytes' := by
  induction bytes generalizing bytes' with
  | nil =>
    cases bytes' with
    | nil => rfl
    | cons => cases same
  | cons b bytes ih =>
    cases bytes' with
    | nil => cases same
    | cons b' bytes' =>
      obtain ⟨front, back⟩ := List.append_inj same rfl
      rw [octet_injective front, ih back]

end Hex

end Geoflow
