import Geoflow.Proofs.Row.Delivery
import Geoflow.Proofs.Row.LeadingNumber
import Geoflow.Proofs.Text.Fields

set_option autoImplicit false

namespace Geoflow

open Decimal (Literal Sign)
open Binary64 (Rounds)

namespace Numeral

def signOf (i : Int) : Sign := if i < 0 then .minus else .absent

/-- The canonical numeral of a number: a minus sign where it is negative and no other sign, then
digits with no needless zero in front. -/
def IsCanonical (cs : List Char) (i : Int) : Prop :=
  ∃ ds, cs = (signOf i).chars ++ ds ∧ ds ≠ [] ∧ (∀ c ∈ ds, isDigit c = true) ∧
    (ds.head? = some '0' → ds.length = 1) ∧ value ds = i.natAbs

theorem ofInt_eq_signed (i : Int) : ofInt i = (signOf i).chars ++ digits i.natAbs := by
  rw [ofInt, signOf]
  split <;> rfl

theorem isMinus_signOf (i : Int) : (signOf i).isMinus = decide (i < 0) := by
  rw [signOf]
  by_cases negative : i < 0
  · simp [negative, Sign.isMinus]
  · simp [negative, Sign.isMinus]

theorem isCanonical_ofInt (i : Int) : IsCanonical (ofInt i) i := by
  refine ⟨digits i.natAbs, ofInt_eq_signed i, digits_ne_nil _, ?_, ?_, value_digits _⟩
  · intro c mem
    exact isDigit_of_mem_digits mem
  · intro zero
    obtain ⟨d, ds, written, alone⟩ := digits_leads i.natAbs
    rw [written] at zero ⊢
    rw [alone (Option.some.inj zero), List.length_singleton]

/-- A number has one canonical numeral. -/
theorem isCanonical_iff {cs : List Char} {i : Int} : IsCanonical cs i ↔ cs = ofInt i := by
  constructor
  · rintro ⟨ds, rfl, nonempty, allDigits, lead, same⟩
    rw [ofInt_eq_signed, ← same, digits_value nonempty allDigits lead]
  · rintro rfl
    exact isCanonical_ofInt i

end Numeral

theorem Binary64.signed_natAbs (i : Int) : signed (decide (i < 0)) (i.natAbs : ℚ) = i := by
  rw [signed, Nat.cast_natAbs]
  by_cases negative : i < 0
  · simp [negative, abs_of_neg negative]
  · simp [negative, abs_of_nonneg (not_lt.mp negative)]

theorem Binary64.rounds_int (i : Int) : Rounds (i < 0) i (ofInt i) := by
  have rounds := rounds_ofRatio (decide (i < 0)) Nat.one_pos i.natAbs
  rwa [Nat.cast_one, div_one, signed_natAbs] at rounds

namespace SqlValue

variable {c : Char}

theorem isBlank_of_isNumberChar (inNumber : isNumberChar c = true) : Text.isBlank c = false := by
  obtain digit | rfl | rfl | rfl | rfl | rfl := isNumberChar_iff.mp inNumber
  · obtain ⟨above, below⟩ := Bool.and_eq_true_iff.mp digit
    have above : 48 ≤ c.toNat := of_decide_eq_true above
    have below : c.toNat ≤ 57 := of_decide_eq_true below
    simp only [Text.isBlank, Bool.or_eq_false_iff, Bool.and_eq_false_iff, decide_eq_false_iff_not,
      beq_eq_false_iff_ne]
    omega
  all_goals decide

theorem trimmed_literal (l : Literal) : Text.trimmed l.chars = l.chars := by
  apply Text.SolidEnds.trimmed_eq
  constructor
  · intro c first
    exact isBlank_of_isNumberChar (isNumberChar_of_mem_literal (List.mem_of_mem_head? first))
  · intro c last
    exact isBlank_of_isNumberChar (isNumberChar_of_mem_literal (List.mem_of_mem_getLast? last))

/-- A literal with a finite double is coerced to it. -/
theorem parseLenient_literal (l : Literal) (finite : l.decimal.toBinary64.isFinite = true) :
    parseLenient l.chars = l.decimal.toBinary64 := by
  have whole : IsLongest (Text.trimmed l.chars) l := by
    rw [trimmed_literal]
    exact ⟨List.prefix_rfl, fun other starts => starts.length_le⟩
  obtain ⟨absent, -⟩ | ⟨other, longest, value⟩ := parseLenient_cases l.chars
  · exact absurd whole.starts (absent l)
  · rw [← whole.decimal_eq longest, if_neg (by simp [finite])] at value
    exact value

def wholeLiteral (i : Int) : Literal where
  sign := Numeral.signOf i
  whole := Numeral.digits i.natAbs
  fraction := none
  exponent := none
  wholeDigits := fun _ mem => Numeral.isDigit_of_mem_digits mem
  fractionDigits := nofun
  nonempty := by simp [Numeral.digits_ne_nil]

theorem chars_wholeLiteral (i : Int) : (wholeLiteral i).chars = Numeral.ofInt i := by
  rw [Numeral.ofInt_eq_signed, Literal.chars, Literal.unsignedChars]
  simp [wholeLiteral, Decimal.fractionChars, Decimal.exponentChars]

theorem value_wholeLiteral (i : Int) : (wholeLiteral i).value = i := by
  have digits : (wholeLiteral i).value =
      Binary64.signed (Numeral.signOf i).isMinus (Numeral.value (Numeral.digits i.natAbs)) := by
    simp [Literal.value, wholeLiteral, Decimal.exponentValue, Numeral.value]
  rw [digits, Numeral.isMinus_signOf, Numeral.value_digits, Binary64.signed_natAbs]

/-- Reading the numeral of a whole number rounds as converting the number does. -/
theorem toBinary64_wholeLiteral (i : Int) :
    (wholeLiteral i).decimal.toBinary64 = .ofInt i := by
  have read := (wholeLiteral i).rounds
  rw [value_wholeLiteral] at read
  have sign : (wholeLiteral i).sign.isMinus = decide (i < 0) := Numeral.isMinus_signOf i
  rw [sign] at read
  exact read.unique (Binary64.rounds_int i)

theorem parseLenient_ofInt {i : Int} (small : i.natAbs < 2 ^ 64) :
    parseLenient (Numeral.ofInt i) = .ofInt i := by
  have double := toBinary64_wholeLiteral i
  have finite : (wholeLiteral i).decimal.toBinary64.isFinite = true := by
    rw [double]
    exact Binary64.isFinite_ofInt small
  rw [← chars_wholeLiteral, parseLenient_literal _ finite, double]

theorem toList_asText_int (n : Int64) : (SqlValue.int n).asText.toList = Numeral.ofInt n.toInt :=
  String.toList_ofList

theorem asText_int_inj {m n : Int64} :
    (SqlValue.int m).asText = (SqlValue.int n).asText ↔ m = n := by
  constructor
  · intro same
    have numerals := congrArg String.toList same
    rw [toList_asText_int, toList_asText_int] at numerals
    exact Int64.toInt_inj.mp (Numeral.ofInt_injective numerals)
  · rintro rfl
    rfl

/-- A whole number coerces to one double, the correctly rounded one, whether it comes as a number,
as its text or as octets. Its text is its canonical numeral, and no other number has that text. -/
theorem integer_coerces_by_any_delivery (n : Int64) :
    (SqlValue.text (SqlValue.int n).asText).asBinary64 = (SqlValue.int n).asBinary64 ∧
      (SqlValue.bytes (Utf8.encode (SqlValue.int n).asText.toList)).asBinary64 =
        (SqlValue.int n).asBinary64 ∧
      (∀ x, Rounds (n.toInt < 0) n.toInt x ↔ x = (SqlValue.int n).asBinary64) ∧
      (∀ cs, Numeral.IsCanonical cs n.toInt ↔ cs = (SqlValue.int n).asText.toList) ∧
      ∀ m, (SqlValue.int m).asText = (SqlValue.int n).asText ↔ m = n := by
  have small : n.toInt.natAbs < 2 ^ 64 := by
    have least := Int64.le_toInt n
    have most := Int64.toInt_lt n
    omega
  have text : (SqlValue.text (SqlValue.int n).asText).asBinary64 = (SqlValue.int n).asBinary64 := by
    show parseLenient (SqlValue.int n).asText.toList = _
    rw [toList_asText_int]
    exact parseLenient_ofInt small
  have octets := (SqlValue.text (SqlValue.int n).asText).asOctets_coercesLike.number
  have rounds := Binary64.rounds_int n.toInt
  refine ⟨text, octets.trans text, ?_, ?_, fun m => asText_int_inj⟩
  · intro x
    constructor
    · intro other
      exact other.unique rounds
    · rintro rfl
      exact rounds
  · intro cs
    rw [toList_asText_int]
    exact Numeral.isCanonical_iff

/-- Between two doubles the even one is taken. -/
example : (SqlValue.text "-9007199254740993").asBinary64 = .ofInt (-9007199254740992) := by
  decide +kernel

end SqlValue

end Geoflow
