import Geoflow.Cell.MySql
import Geoflow.Proofs.Binary64.Fewest
import Geoflow.Proofs.Json.Entry
import Geoflow.Proofs.Outcome

set_option autoImplicit false

namespace Geoflow

namespace Binary64

variable {num den scale n m : Nat} {x : Binary64}

theorem divHalfEven_mul_right (num den : Nat) (pos : 0 < scale) :
    divHalfEven (num * scale) (den * scale) = divHalfEven num den := by
  have twice : 2 * (num % den * scale) = 2 * (num % den) * scale := (Nat.mul_assoc ..).symm
  rw [divHalfEven, divHalfEven, Nat.mul_div_mul_right _ _ pos, Nat.mul_mod_mul_right, twice]
  simp only [Nat.mul_lt_mul_right pos]

theorem divHalfEven_range (least : 2 ^ 63 ≤ n) (most : n < 2 ^ 64) :
    2 ^ 52 ≤ divHalfEven n 2048 ∧ divHalfEven n 2048 ≤ 2 ^ 53 := by
  have neighbour := divHalfEven_neighbour n 2048
  omega

/-- The place of the doubles from `2 ^ 63` on, with the exponents as variables, so that nothing
computes these powers. -/
theorem exists_signedPlace : ∃ place, 1085 = 11 + place ∧ unitsOfOne = 2 ^ place := by
  obtain ⟨place, isPlace, power⟩ : ∃ place, 1085 = 11 + place ∧ unitsOfOne = Nat.pow 2 place :=
    ⟨1074, rfl, by unfold unitsOfOne; rfl⟩
  exact ⟨place, isPlace, power⟩

/-- From `2 ^ 63` on the doubles are 2048 apart. -/
theorem magnitude_ofInt (least : 2 ^ 63 ≤ n) (most : n < 2 ^ 64) :
    (ofInt n).magnitude = 1085 * 2 ^ 52 + divHalfEven n 2048 := by
  obtain ⟨place, isPlace, unit⟩ := exists_signedPlace
  have few := (divHalfEven_range least most).2
  have scaled : divHalfEven (n * 2 ^ place) (1 * 2 ^ (11 + place)) = divHalfEven n 2048 := by
    rw [Nat.one_mul, Nat.pow_add, divHalfEven_mul_right _ _ (Nat.two_pow_pos place)]
  rw [ofInt_natCast, magnitude_ofRatio, roundBits_eq, unit, isPlace,
    nearest_eq Nat.one_pos (.inr ?least) ?most, scaled, ← isPlace]
  case least =>
    rw [Nat.mul_one, ← Nat.add_assoc, Nat.pow_add]
    exact Nat.mul_le_mul_right _ least
  case most =>
    rw [Nat.mul_one, ← Nat.add_assoc, Nat.pow_add]
    exact Nat.mul_lt_mul_of_pos_right most (Nat.two_pow_pos place)
  exact Nat.min_eq_left (by rw [infinityBits_eq]; omega)

theorem toRat_ofInt (least : 2 ^ 63 ≤ n) (most : n < 2 ^ 64) :
    (ofInt n).toRat = divHalfEven n 2048 * 2048 := by
  obtain ⟨place, isPlace, unit⟩ := exists_signedPlace
  obtain ⟨many, few⟩ := divHalfEven_range least most
  have positive : (ofInt n).isNegative = false := (rounds_ofInt n).sign
  rw [toRat_of_positive positive, units_eq (magnitude_ofInt least most) few (.inr many), isPlace,
    unit, Nat.pow_add]
  push_cast
  rw [← mul_assoc, mul_div_cancel_right₀ _ (by positivity)]

theorem ofInt_eq_ofInt_iff (leastN : 2 ^ 63 ≤ n) (mostN : n < 2 ^ 64) (leastM : 2 ^ 63 ≤ m)
    (mostM : m < 2 ^ 64) : ofInt n = ofInt m ↔ divHalfEven n 2048 = divHalfEven m 2048 := by
  have bits := magnitude_ofInt leastN mostN
  have bits' := magnitude_ofInt leastM mostM
  constructor
  · intro same
    rw [same] at bits
    omega
  · intro same
    refine eq_of_parts ?_ (by omega)
    rw [(rounds_ofInt n).sign, (rounds_ofInt m).sign]

/-- Numbers of nineteen digits or more leave the seventeen digits of a double a power of ten. -/
theorem exponent_shortest (finite : x.isFinite = true) (nonzero : x.magnitude ≠ 0)
    (positive : x.isNegative = false) (large : 10 ^ 18 ≤ x.toRat) :
    0 ≤ (shortest .up x).exponent := by
  obtain ⟨count, -, bounded, found, -⟩ := shortest_least .up finite nonzero
  obtain ⟨-, above⟩ := decimalOrder_bounds (units_pos nonzero) unitsOfOne_pos
  obtain ⟨near, far, -, both, -⟩ := neighbours_spec unitsOfOne_pos .up x.units
    (decimalOrder x.units unitsOfOne - count)
  rw [← toRat_of_positive positive] at above
  have order := lt_of_le_of_lt large above
  rw [← zpow_natCast, zpow_lt_zpow_iff_right₀ (by norm_num)] at order
  have exponent : (shortest .up x).exponent = decimalOrder x.units unitsOfOne - count := by
    have mem := List.mem_of_find?_eq_some found
    rw [both] at mem
    simp only [List.mem_cons, List.not_mem_nil, or_false] at mem
    obtain same | same := mem <;> rw [same]
  omega

/-- The text of a double above the signed range is the numeral of the plainest number. -/
theorem exists_plainest (least : 2 ^ 63 ≤ n) (most : n < 2 ^ 64) :
    ∃ plain, (ofInt n).toText = Numeral.ofNat plain ∧ IsPlainest (ofInt n) plain := by
  obtain ⟨many, few⟩ := divHalfEven_range least most
  have bits := magnitude_ofInt least most
  have finite : (ofInt n).isFinite = true := isFinite_iff.mpr (by rw [infinityBits_eq]; omega)
  have nonzero : (ofInt n).magnitude ≠ 0 := by omega
  have positive : (ofInt n).isNegative = false := (rounds_ofInt n).sign
  have large : 10 ^ 18 ≤ (ofInt n).toRat := by
    have manyQ : (2 : ℚ) ^ 52 ≤ divHalfEven n 2048 := by exact_mod_cast many
    rw [toRat_ofInt least most]
    linarith
  have whole := exponent_shortest finite nonzero positive large
  exact ⟨_, toText_of_whole finite nonzero positive whole,
    isPlainest_shortest finite nonzero positive whole⟩

/-- What is rounded to the least double above the signed range is not written as less than it. -/
theorem IsPlainest.le {plain : Nat} (least : 2 ^ 63 ≤ n) (most : n < 2 ^ 64)
    (plainest : IsPlainest (ofInt n) plain) : 2 ^ 63 ≤ plain := by
  by_contra below
  have below : plain < 2 ^ 63 := Nat.not_le.mp below
  obtain ⟨many, few⟩ := divHalfEven_range least most
  have manyQ : (2 : ℚ) ^ 52 ≤ divHalfEven n 2048 := by exact_mod_cast many
  have belowQ : (plain : ℚ) ≤ (2 ^ 63 : Nat) := by exact_mod_cast below.le
  have finite : (ofInt n).isFinite = true := isFinite_iff.mpr (by
    rw [magnitude_ofInt least most, infinityBits_eq]
    omega)
  have boundary : ofInt (2 ^ 63 : Nat) = ofInt n := by
    refine ofInt_eq_iff.mpr ((ofInt_eq_iff.mp plainest.rounds).between finite (.inr ⟨belowQ, ?_⟩))
    rw [toRat_ofInt least most]
    push_cast
    linarith
  obtain ⟨other, text, otherPlainest⟩ := exists_plainest least most
  have written : (ofInt (2 ^ 63 : Nat)).toText = Numeral.ofNat 9223372036854776000 := by
    decide +kernel
  rw [boundary, text] at written
  have same : other = 9223372036854776000 := Numeral.ofNat_injective written
  have same : plain = 9223372036854776000 := (plainest.unique otherPlainest).trans same
  omega

end Binary64

namespace Cell

open Binary64 (divHalfEven IsPlainest)

variable {v w : UInt64}

def Merged (v w : UInt64) : Prop :=
  2 ^ 63 ≤ v.toNat ∧ 2 ^ 63 ≤ w.toNat ∧ divHalfEven v.toNat 2048 = divHalfEven w.toNat 2048

theorem unsignedValue_of_lt (small : v.toNat < 2 ^ 63) :
    unsignedValue v = .int (Int64.ofNat v.toNat) := if_pos small

theorem unsignedValue_of_le (large : 2 ^ 63 ≤ v.toNat) :
    unsignedValue v = .float (.ofInt v.toNat) := if_neg (Nat.not_lt.mpr large)

theorem asText_unsignedValue (small : v.toNat < 2 ^ 63) :
    (unsignedValue v).asText = Numeral.ofNat v.toNat := by
  rw [unsignedValue_of_lt small, SqlValue.asText, Int64.toInt_ofNat_of_lt small, Numeral.ofInt,
    if_neg (by omega), Int.natAbs_natCast]
  rfl

theorem exists_plainest_text (large : 2 ^ 63 ≤ v.toNat) :
    ∃ n, (unsignedValue v).asText = Numeral.ofNat n ∧ IsPlainest (.ofInt v.toNat) n := by
  obtain ⟨n, text, plainest⟩ := Binary64.exists_plainest large v.toNat_lt
  refine ⟨n, ?_, plainest⟩
  rw [unsignedValue_of_le large, SqlValue.asText, text]

theorem asText_unsignedValue_ne (small : v.toNat < 2 ^ 63) (large : 2 ^ 63 ≤ w.toNat) :
    (unsignedValue v).asText ≠ (unsignedValue w).asText := by
  intro same
  obtain ⟨n, text, plainest⟩ := exists_plainest_text large
  rw [asText_unsignedValue small, text] at same
  have above := plainest.le large w.toNat_lt
  have equal := Numeral.ofNat_injective same
  omega

theorem asText_unsignedValue_eq_iff (v w : UInt64) :
    (unsignedValue v).asText = (unsignedValue w).asText ↔ v = w ∨ Merged v w := by
  obtain smallV | largeV := Nat.lt_or_ge v.toNat (2 ^ 63)
  · have apart : ¬ Merged v w := fun merged => Nat.not_le.mpr smallV merged.1
    rw [or_iff_left apart]
    refine ⟨fun same => ?_, fun equal => by rw [equal]⟩
    obtain smallW | largeW := Nat.lt_or_ge w.toNat (2 ^ 63)
    · rw [asText_unsignedValue smallV, asText_unsignedValue smallW] at same
      exact UInt64.toNat.inj (Numeral.ofNat_injective same)
    · exact absurd same (asText_unsignedValue_ne smallV largeW)
  · obtain smallW | largeW := Nat.lt_or_ge w.toNat (2 ^ 63)
    · have apart : ¬ Merged v w := fun merged => Nat.not_le.mpr smallW merged.2.1
      rw [or_iff_left apart]
      refine ⟨fun same => ?_, fun equal => by rw [equal]⟩
      exact absurd same.symm (asText_unsignedValue_ne smallW largeV)
    · obtain ⟨n, textV, plainestV⟩ := exists_plainest_text largeV
      obtain ⟨m, textW, plainestW⟩ := exists_plainest_text largeW
      have doubles := Binary64.ofInt_eq_ofInt_iff largeV v.toNat_lt largeW w.toNat_lt
      constructor
      · intro same
        rw [textV, textW] at same
        have equal := Numeral.ofNat_injective same
        rw [← plainestV.rounds, ← plainestW.rounds, equal] at doubles
        exact .inr ⟨largeV, largeW, doubles.mp rfl⟩
      · rintro (rfl | ⟨-, -, merged⟩)
        · rfl
        · rw [doubles.mpr merged] at plainestV
          rw [textV, textW, plainestV.unique plainestW]

theorem asText_unsignedValue_eq_ofNat_iff (v : UInt64) :
    (unsignedValue v).asText = Numeral.ofNat v.toNat ↔
      v.toNat < 2 ^ 63 ∨ IsPlainest (.ofInt v.toNat) v.toNat := by
  obtain small | large := Nat.lt_or_ge v.toNat (2 ^ 63)
  · exact iff_of_true (asText_unsignedValue small) (.inl small)
  · rw [or_iff_right (Nat.not_lt.mpr large)]
    obtain ⟨n, text, plainest⟩ := exists_plainest_text large
    constructor
    · intro own
      rwa [Numeral.ofNat_injective (text.symm.trans own)] at plainest
    · intro own
      rw [text, plainest.unique own]

end Cell

theorem lookup_of_readCells {decode : String → Cell → Except CellFault SqlValue} {i : Nat}
    {columns : List Column} {cells : List Cell} {values : List (String × SqlValue)} {name : String}
    {column : Column} {cell : Cell} (read : readCells decode i columns cells = .ok values)
    (first : (columns.zip cells).find? (·.1.name == name) = some (column, cell)) :
    ∃ value, decode column.typeName cell = .ok value ∧ values.lookup name = some value := by
  fun_induction readCells decode i columns cells generalizing values with
  | case1 => cases read
  | case2 i next columns here cells value decoded ih =>
    obtain ⟨rest, readRest, rfl⟩ := map_eq_ok_iff.mp read
    rw [List.zip_cons_cons, List.find?_cons] at first
    rw [Json.lookup_cons_eq_ite]
    by_cases named : name = next.name
    · rw [beq_iff_eq.mpr named.symm] at first
      cases first
      exact ⟨value, decoded, if_pos named⟩
    · rw [beq_eq_false_iff_ne.mpr (Ne.symm named)] at first
      rw [if_neg named]
      exact ih readRest first
  | case3 columns i cells short =>
    cases columns with
    | nil => cases first
    | cons next columns =>
      cases cells with
      | nil => cases first
      | cons here cells => exact absurd rfl (short next columns here cells rfl)

/-- A row that was read from cells, the first column called id being one of unsigned numbers of 64
bits with `v` in it. -/
def Row.ReadsId (r : Row) (v : UInt64) : Prop :=
  ∃ columns cells, readRow MySql.readCell columns cells = .ok r ∧
    (columns.zip cells).find? (·.1.name == "id") =
      some (⟨"id", "BIGINT UNSIGNED"⟩, .whole v.toNat)

theorem MySql.readCell_unsigned (v : UInt64) :
    MySql.readCell "BIGINT UNSIGNED" (.whole v.toNat) = .ok (Cell.unsignedValue v) := by
  have back : UInt64.ofInt v.toNat = v := by
    have below := v.toNat_lt
    have same : ((v.toNat : Int) % 2 ^ 64).toNat = v.toNat := by omega
    rw [UInt64.ofInt, same, UInt64.ofNat_toNat]
  change Except.ok (Cell.unsignedValue (UInt64.ofInt v.toNat)) = _
  rw [back]

theorem Row.ReadsId.toCanonical_id {r : Row} {v : UInt64} (reads : r.ReadsId v) :
    r.toCanonical.id = (Cell.unsignedValue v).asText := by
  obtain ⟨columns, cells, read, first⟩ := reads
  obtain ⟨values, readValues, rfl⟩ := map_eq_ok_iff.mp read
  obtain ⟨value, decoded, looked⟩ := lookup_of_readCells readValues first
  rw [MySql.readCell_unsigned] at decoded
  cases decoded
  change (Option.getD (values.lookup "id") .null).asText = _
  rw [looked]
  rfl

/-- Every number is the id of a row. -/
theorem Row.readsId_single (v : UInt64) : Row.ReadsId ⟨[("id", Cell.unsignedValue v)]⟩ v := by
  refine ⟨[⟨"id", "BIGINT UNSIGNED"⟩], [.whole v.toNat], ?_, rfl⟩
  rw [readRow, readCells, MySql.readCell_unsigned]
  rfl

/-- Two unsigned numbers have one text, and two rows with them as ids one id, exactly if they are
equal or both above the signed range and rounded to one multiple of 2048. The text is the numeral of
a number: its own in the signed range, above it the plainest one that is rounded to the same double,
which it may be itself. -/
theorem unsigned_ids_distinct_iff (v w : UInt64) :
    ((Cell.unsignedValue v).asText = (Cell.unsignedValue w).asText ↔ v = w ∨ Cell.Merged v w) ∧
      (∀ r r' : Row, r.ReadsId v → r'.ReadsId w →
        (r.toCanonical.id = r'.toCanonical.id ↔ v = w ∨ Cell.Merged v w)) ∧
      ((Cell.unsignedValue v).asText = Numeral.ofNat v.toNat ↔
        v.toNat < 2 ^ 63 ∨ Binary64.IsPlainest (.ofInt v.toNat) v.toNat) ∧
      (2 ^ 63 ≤ v.toNat → ∃ n, (Cell.unsignedValue v).asText = Numeral.ofNat n ∧
        Binary64.IsPlainest (.ofInt v.toNat) n) := by
  refine ⟨Cell.asText_unsignedValue_eq_iff v w, fun r r' reads reads' => ?_,
    Cell.asText_unsignedValue_eq_ofNat_iff v, Cell.exists_plainest_text⟩
  rw [reads.toCanonical_id, reads'.toCanonical_id]
  exact Cell.asText_unsignedValue_eq_iff v w

theorem unsigned_ids_distinct_iff_neighbours :
    Row.ReadsId ⟨[("id", Cell.unsignedValue 9223372036854775808)]⟩ 9223372036854775808 ∧
      Row.ReadsId ⟨[("id", Cell.unsignedValue 9223372036854775809)]⟩ 9223372036854775809 ∧
      (Row.mk [("id", Cell.unsignedValue 9223372036854775808)]).toCanonical.id =
        (Row.mk [("id", Cell.unsignedValue 9223372036854775809)]).toCanonical.id := by
  have reads := Row.readsId_single 9223372036854775808
  have reads' := Row.readsId_single 9223372036854775809
  have merged : Cell.Merged 9223372036854775808 9223372036854775809 :=
    ⟨by decide, by decide, by decide⟩
  obtain ⟨-, rows, -⟩ := unsigned_ids_distinct_iff 9223372036854775808 9223372036854775809
  exact ⟨reads, reads', (rows _ _ reads reads').mpr (.inr merged)⟩

/-- The first two numbers above the signed range are one id, and not the numeral of the first. -/
theorem neighbouring_ids_merge :
    (9223372036854775808 : UInt64) ≠ 9223372036854775809 ∧
      (Cell.unsignedValue 9223372036854775808).asText =
        (Cell.unsignedValue 9223372036854775809).asText ∧
      (Cell.unsignedValue 9223372036854775808).asText ≠ "9223372036854775808" := by
  decide +kernel

/-- A number that is the plainest of its double is written as itself. -/
example : (Cell.unsignedValue 9223372036854776000).asText = "9223372036854776000" := by
  decide +kernel

end Geoflow
