import Geoflow.Numeral
import Mathlib.Algebra.Group.Nat.Defs
import Mathlib.Data.List.Induction
import Mathlib.Data.List.TakeWhile

set_option autoImplicit false

namespace Geoflow.Numeral

theorem isDigit_of_mem_digits {n : Nat} {c : Char} (mem : c ∈ digits n) : isDigit c = true := by
  have digit := Nat.isDigit_of_mem_toDigits (by omega) (by omega) mem
  simpa [isDigit, Char.isDigit, Char.le_def] using digit

theorem value_digits (n : Nat) : value (digits n) = n := by
  have read := @Nat.ofDigitChars_ten_toDigits n
  rwa [Nat.ofDigitChars_eq_foldl] at read

theorem readNat?_digits (n : Nat) : readNat? (digits n) = some n := by
  have nonempty : (digits n).isEmpty = false := by
    simp only [digits, List.isEmpty_eq_false_iff, ne_eq, Nat.toDigits_ne_nil, not_false_eq_true]
  have digitsOnly : (digits n).all isDigit = true :=
    List.all_eq_true.mpr fun _ mem => isDigit_of_mem_digits mem
  simp only [readNat?, nonempty, digitsOnly, Bool.not_false, Bool.and_self, ↓reduceIte,
    value_digits]

theorem readNat?_eq_some_iff {cs : List Char} {n : Nat} : readNat? cs = some n ↔
    cs ≠ [] ∧ (∀ c ∈ cs, isDigit c = true) ∧ n = value cs := by
  rw [readNat?]
  constructor
  · intro read
    split at read
    · rename_i digits
      rw [Bool.and_eq_true, List.all_eq_true] at digits
      exact ⟨by simpa using digits.1, digits.2, (Option.some.inj read).symm⟩
    · cases read
  · rintro ⟨nonempty, allDigits, rfl⟩
    rw [if_pos]
    rw [Bool.and_eq_true, List.all_eq_true]
    exact ⟨by simpa using nonempty, allDigits⟩

theorem digits_ne_nil (n : Nat) : digits n ≠ [] := Nat.toDigits_ne_nil

theorem foldl_digits (n : Nat) (cs : List Char) :
    cs.foldl (fun n c => 10 * n + digitValue c) n = n * 10 ^ cs.length + value cs := by
  induction cs generalizing n with
  | nil => simp [value]
  | cons c cs ih =>
    rw [value, List.foldl_cons, List.foldl_cons, ih, ih (10 * 0 + digitValue c), List.length_cons,
      Nat.pow_succ]
    grind

theorem value_append (cs ds : List Char) :
    value (cs ++ ds) = value cs * 10 ^ ds.length + value ds := by
  rw [value, List.foldl_append, foldl_digits]
  rfl

theorem value_cons (c : Char) (cs : List Char) :
    value (c :: cs) = digitValue c * 10 ^ cs.length + value cs := by
  rw [value, List.foldl_cons, foldl_digits, Nat.mul_zero, Nat.zero_add]

theorem digitValue_lt {c : Char} (digit : isDigit c = true) : digitValue c < 10 := by
  obtain ⟨-, below⟩ : '0' ≤ c ∧ c ≤ '9' := by simpa [isDigit] using digit
  have below : c.toNat ≤ 57 := below
  rw [digitValue]
  have zero : '0'.toNat = 48 := rfl
  omega

theorem digits_digitValue {c : Char} (digit : isDigit c = true) :
    digits (digitValue c) = [c] := by
  obtain ⟨above, -⟩ : '0' ≤ c ∧ c ≤ '9' := by simpa [isDigit] using digit
  have above : 48 ≤ c.toNat := above
  have small : digitValue c < 10 := digitValue_lt digit
  have code := Nat.toNat_digitChar_of_lt_ten small
  have zero : '0'.toNat = 48 := rfl
  have same : (digitValue c).digitChar = c := by
    apply Char.toNat_inj.mp
    rw [code, digitValue]
    omega
  rw [digits, Nat.toDigits_of_lt_base small, same]

theorem value_lt {cs : List Char} (allDigits : ∀ c ∈ cs, isDigit c = true) :
    value cs < 10 ^ cs.length := by
  induction cs with
  | nil => decide
  | cons c cs ih =>
    obtain ⟨digit, allDigits⟩ := List.forall_mem_cons.mp allDigits
    have front := Nat.mul_le_mul_right (10 ^ cs.length) (Nat.le_of_lt_succ (digitValue_lt digit))
    have back := ih allDigits
    rw [value_cons, List.length_cons, Nat.pow_succ]
    omega

theorem length_digits_le_iff {n k : Nat} (some : 0 < k) : (digits n).length ≤ k ↔ n < 10 ^ k :=
  Nat.length_toDigits_le_iff (by decide) some

theorem length_digits_pos (n : Nat) : 0 < (digits n).length := Nat.length_toDigits_pos

theorem lt_pow_length_digits (n : Nat) : n < 10 ^ (digits n).length :=
  (length_digits_le_iff (length_digits_pos n)).mp (Nat.le_refl _)

theorem pow_length_digits_le {n : Nat} (pos : 0 < n) : 10 ^ ((digits n).length - 1) ≤ n := by
  by_cases short : (digits n).length - 1 = 0
  · rwa [short]
  · have long : ¬ (digits n).length ≤ (digits n).length - 1 := by omega
    rwa [length_digits_le_iff (Nat.pos_of_ne_zero short), Nat.not_lt] at long

/-- Only zero is written with a zero in front. -/
theorem digits_leads (n : Nat) : ∃ d ds, digits n = d :: ds ∧ (d = '0' → ds = []) := by
  cases written : digits n with
  | nil => exact absurd written (digits_ne_nil n)
  | cons d ds =>
    refine ⟨d, ds, rfl, fun zero => List.eq_nil_of_length_eq_zero ?_⟩
    refine Nat.eq_zero_of_not_pos fun more => ?_
    have allDigits : ∀ c ∈ ds, isDigit c = true := fun c mem =>
      isDigit_of_mem_digits (n := n) (written ▸ List.mem_cons_of_mem d mem)
    have small : n < 10 ^ ds.length := by
      rw [← value_digits n, written, value_cons, zero]
      simpa [digitValue] using value_lt allDigits
    have short := (length_digits_le_iff more).mpr small
    rw [written, List.length_cons] at short
    omega

/-- Digits with no zero in front are the numeral of their value. -/
theorem digits_value {ds : List Char} (nonempty : ds ≠ [])
    (allDigits : ∀ c ∈ ds, isDigit c = true) (lead : ds.head? = some '0' → ds.length = 1) :
    digits (value ds) = ds := by
  induction ds using List.reverseRecOn with
  | nil => exact absurd rfl nonempty
  | append_singleton front d ih =>
    obtain ⟨frontDigits, last⟩ := List.forall_mem_append.mp allDigits
    have small := digitValue_lt (last d List.mem_cons_self)
    have single : digits (digitValue d) = [d] := digits_digitValue (last d List.mem_cons_self)
    have last' : value [d] = digitValue d := by simp [value]
    have split : value (front ++ [d]) = 10 * value front + digitValue d := by
      rw [value_append, last', List.length_singleton, Nat.pow_one, Nat.mul_comm]
    rw [split]
    by_cases empty : front = []
    · subst empty
      simpa [value] using single
    · have written : digits (value front) = front := by
        apply ih empty frontDigits
        intro zero
        have short := lead (by rw [List.head?_append, zero]; rfl)
        have long := List.length_pos_iff.mpr empty
        simp only [List.length_append, List.length_singleton] at short
        omega
      -- A front part of value zero would be a zero in front.
      have pos : 0 < value front := by
        apply Nat.pos_of_ne_zero
        intro zero
        rw [zero] at written
        have short := lead (by rw [← written]; rfl)
        have long := List.length_pos_iff.mpr empty
        simp only [List.length_append, List.length_singleton] at short
        omega
      have appended : digits (value front) ++ digits (digitValue d) =
          digits (10 * value front + digitValue d) :=
        Nat.toDigits_append_toDigits (by decide) pos small
      rw [← appended, written, single]

theorem value_zeros (n : Nat) : value (List.replicate n '0') = 0 := by
  induction n with
  | zero => rfl
  | succ n ih =>
    rw [List.replicate_succ, value_cons, ih, Nat.add_zero]
    exact Nat.zero_mul _

theorem digits_mul_ten_pow {n : Nat} (pos : 0 < n) (zeros : Nat) :
    digits (n * 10 ^ zeros) = digits n ++ List.replicate zeros '0' := by
  induction zeros with
  | zero => rw [Nat.pow_zero, Nat.mul_one, List.replicate_zero, List.append_nil]
  | succ zeros ih =>
    have more : 0 < n * 10 ^ zeros := Nat.mul_pos pos (Nat.pow_pos (by decide))
    have appended : digits (n * 10 ^ zeros) ++ ['0'] = digits (10 * (n * 10 ^ zeros) + 0) :=
      Nat.toDigits_append_toDigits (show 1 < 10 by decide) more (show 0 < 10 by decide)
    have moved : n * 10 ^ (zeros + 1) = 10 * (n * 10 ^ zeros) + 0 := by
      rw [Nat.pow_succ, Nat.add_zero, Nat.mul_comm 10, Nat.mul_assoc]
    rw [moved, ← appended, ih, List.replicate_succ', List.append_assoc]

theorem value_padded (width n : Nat) : value (padded width n) = n := by
  rw [padded, value_append, value_zeros, Nat.zero_mul, Nat.zero_add, value_digits]

theorem padded_ne_nil (width n : Nat) : padded width n ≠ [] :=
  fun empty => digits_ne_nil n (List.append_eq_nil_iff.mp empty).2

theorem isDigit_of_mem_zeros {n : Nat} {c : Char} (mem : c ∈ List.replicate n '0') :
    isDigit c = true := by
  rw [List.eq_of_mem_replicate mem]
  decide

theorem isDigit_of_mem_padded {width n : Nat} {c : Char} (mem : c ∈ padded width n) :
    isDigit c = true := by
  obtain zero | digit := List.mem_append.mp mem
  · exact isDigit_of_mem_zeros zero
  · exact isDigit_of_mem_digits digit

theorem readNat?_padded (width n : Nat) : readNat? (padded width n) = some n :=
  readNat?_eq_some_iff.mpr
    ⟨padded_ne_nil width n, fun _ mem => isDigit_of_mem_padded mem, (value_padded width n).symm⟩

theorem not_mem_padded {c : Char} (other : isDigit c = false) (width n : Nat) :
    c ∉ padded width n := fun mem => Bool.false_ne_true (other ▸ isDigit_of_mem_padded mem)

theorem length_padded {width n : Nat} (some : 0 < width) (small : n < 10 ^ width) :
    (padded width n).length = width := by
  have short := (length_digits_le_iff some).mpr small
  rw [padded, List.length_append, List.length_replicate]
  omega

/-- What is left of digits without the zeros at their end, and these zeros. -/
theorem exists_trailing (ds : List Char) :
    ∃ zeros, ds = (ds.reverse.dropWhile (· == '0')).reverse ++ List.replicate zeros '0' := by
  have parts := List.takeWhile_append_dropWhile (p := (· == '0')) (l := ds.reverse)
  have zeros : ds.reverse.takeWhile (· == '0') =
      List.replicate (ds.reverse.takeWhile (· == '0')).length '0' := by
    refine List.eq_replicate_of_mem fun c mem => ?_
    have isZero := List.mem_takeWhile_imp mem
    exact beq_iff_eq.mp isZero
  refine ⟨(ds.reverse.takeWhile (· == '0')).length, ?_⟩
  rw [← List.reverse_replicate, ← List.reverse_append, ← zeros, parts, List.reverse_reverse]

theorem digits_injective {m n : Nat} (same : digits m = digits n) : m = n := by
  rw [← value_digits m, same, value_digits]

theorem ofNat_injective {m n : Nat} (same : ofNat m = ofNat n) : m = n :=
  digits_injective (String.ofList_injective same)

/-- A sign is no digit, so an unsigned numeral is read as it stands. -/
theorem readInt?_of_isDigit {c : Char} {cs : List Char} (digit : isDigit c = true) :
    readInt? (c :: cs) = (readNat? (c :: cs)).map fun n => (n : Int) := by
  have notMinus : c ≠ '-' := by rintro rfl; exact absurd digit (by decide)
  have notPlus : c ≠ '+' := by rintro rfl; exact absurd digit (by decide)
  unfold readInt?
  split
  · rename_i equal; exact absurd (List.cons.inj equal).1 notMinus
  · rename_i equal; exact absurd (List.cons.inj equal).1 notPlus
  · rfl

theorem readInt?_digits (n : Nat) : readInt? (digits n) = some (n : Int) := by
  cases text : digits n with
  | nil => exact absurd text Nat.toDigits_ne_nil
  | cons c cs =>
    have digit : isDigit c = true := isDigit_of_mem_digits (n := n) (by simp [text])
    rw [readInt?_of_isDigit digit, ← text, readNat?_digits]
    rfl

theorem readInt?_ofInt (i : Int) : readInt? (ofInt i) = some i := by
  unfold ofInt
  split
  · rename_i negative
    have value : -(i.natAbs : Int) = i := by omega
    simp only [readInt?, readNat?_digits]
    exact congrArg some value
  · rw [readInt?_digits, Option.some.injEq]
    omega

theorem ofInt_injective {i j : Int} (same : ofInt i = ofInt j) : i = j := by
  have read := readInt?_ofInt i
  rw [same, readInt?_ofInt] at read
  exact (Option.some.inj read).symm

end Geoflow.Numeral
