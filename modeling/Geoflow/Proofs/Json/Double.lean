import Geoflow.Json.Printer
import Geoflow.Proofs.Binary64.Shortest
import Geoflow.Proofs.Json.Number

set_option autoImplicit false

namespace Geoflow.Json

variable {x : Binary64} {significand power : Nat}

section Scaling

open Binary64 (unitsOfOne lastPlace infinityBits roundBits ofRatio)

/-- A rounded whole number is above it by `2 ^ -53` of it at most. -/
theorem units_ofRatio_one_le {n : Nat} (some : 0 < n)
    (below : ((n * unitsOfOne : Nat) : ℚ) < (2 ^ 53 - 1 / 2) * 2 ^ lastPlace) :
    ((ofRatio false n 1).units : ℚ) ≤ (n * unitsOfOne : Nat) * (1 + 1 / 2 ^ 53) := by
  have ratio : ((n * unitsOfOne : Nat) : ℚ) / (1 : Nat) = (n * unitsOfOne : Nat) := by
    rw [Nat.cast_one, div_one]
  have finite : roundBits n 1 < infinityBits :=
    Binary64.roundBits_lt_infinityBits Nat.one_pos (by rwa [ratio])
  have normal : 2 ^ 52 ≤ n * unitsOfOne :=
    Nat.le_trans Binary64.unitsOfOne_bounds.1 (Nat.le_mul_of_pos_left _ some)
  have bounds := Binary64.units_ofRatio_bounds false Nat.one_pos finite
    (by rw [ratio]; exact_mod_cast normal)
  rw [ratio] at bounds
  exact bounds.1

/-- A whole number that rounds to a double is not far above it. -/
theorem units_le_of_rounds {whole : Nat} (some : 0 < whole)
    (below : x.magnitude + 4 ≤ infinityBits)
    (rounds : ∃ num den : Nat, 0 < den ∧ (num : ℚ) / den = whole ∧
      roundBits num den = x.magnitude) :
    ((whole * unitsOfOne : Nat) : ℚ) ≤ (2 ^ 53 - 4) * 2 ^ lastPlace * (1 + 1 / 2 ^ 53) := by
  obtain ⟨num, den, pos, ratio, rounds⟩ := rounds
  have finite : roundBits num den < infinityBits := by omega
  have ratioUnits : ((num * unitsOfOne : Nat) : ℚ) / den = (whole * unitsOfOne : Nat) := by
    rw [Nat.cast_mul, mul_div_right_comm, ratio, Nat.cast_mul]
  have normal : 2 ^ 52 ≤ whole * unitsOfOne :=
    Nat.le_trans Binary64.unitsOfOne_bounds.1 (Nat.le_mul_of_pos_left _ some)
  have bounds := Binary64.units_ofRatio_bounds false pos finite
    (by rw [ratioUnits]; exact_mod_cast normal)
  have same : (ofRatio false num den).units = x.units :=
    Binary64.units_congr ((Binary64.magnitude_ofRatio false num den).trans rounds)
  rw [ratioUnits, same] at bounds
  have top : (x.units : ℚ) + 4 * 2 ^ lastPlace ≤ 2 ^ 53 * 2 ^ lastPlace := by
    exact_mod_cast Binary64.units_add_le below (by decide) (by decide)
  have top : (x.units : ℚ) ≤ (2 ^ 53 - 4) * 2 ^ lastPlace := by linarith
  exact le_trans bounds.2 (mul_le_mul_of_nonneg_right top (by norm_num))

/-- Three roundings of four places below a power of two stay below its middle. -/
theorem product_lt {a b s p unit last : ℚ} (nonneg : 0 ≤ b) (somePart : 0 ≤ s) (unitPos : 0 < unit)
    (lastPos : 0 < last) (first : a ≤ s * unit * (1 + 1 / 2 ^ 53))
    (second : b ≤ p * unit * (1 + 1 / 2 ^ 53))
    (close : s * p * unit ≤ (2 ^ 53 - 4) * last * (1 + 1 / 2 ^ 53)) :
    a * b < (2 ^ 53 - 1 / 2) * last * unit := by
  calc a * b ≤ s * unit * (1 + 1 / 2 ^ 53) * (p * unit * (1 + 1 / 2 ^ 53)) :=
        mul_le_mul first second nonneg (by positivity)
    _ = s * p * unit * (unit * (1 + 1 / 2 ^ 53) ^ 2) := by ring
    _ ≤ (2 ^ 53 - 4) * last * (1 + 1 / 2 ^ 53) * (unit * (1 + 1 / 2 ^ 53) ^ 2) :=
        mul_le_mul_of_nonneg_right close (by positivity)
    _ = (2 ^ 53 - 4) * (1 + 1 / 2 ^ 53) ^ 3 * (last * unit) := by ring
    _ < (2 ^ 53 - 1 / 2) * (last * unit) :=
        mul_lt_mul_of_pos_right (by norm_num) (mul_pos lastPos unitPos)
    _ = (2 ^ 53 - 1 / 2) * last * unit := by ring

/-- Scaling up loses at most `2 ^ -53` in each of its roundings, so it stays finite below the three
greatest doubles. -/
theorem scaleUp?_isSome (some : 0 < significand) (below : x.magnitude + 4 ≤ infinityBits)
    (rounds : ∃ num den : Nat, 0 < den ∧ (num : ℚ) / den = (significand * 10 ^ power : Nat) ∧
      roundBits num den = x.magnitude) :
    (scaleUp? (.ofRatio false significand 1) power).isSome = true := by
  have powerPos : 0 < 10 ^ power := Nat.pow_pos (by decide)
  have close := units_le_of_rounds (Nat.mul_pos some powerPos) below rounds
  have unit : (0 : ℚ) < 2 ^ lastPlace := by positivity
  have top : ((significand * 10 ^ power * unitsOfOne : Nat) : ℚ) <
      (2 ^ 53 - 1 / 2) * 2 ^ lastPlace := lt_of_le_of_lt close (by nlinarith)
  have upper : ∀ {n}, n ≤ significand * 10 ^ power →
      ((n * unitsOfOne : Nat) : ℚ) < (2 ^ 53 - 1 / 2) * 2 ^ lastPlace := fun less =>
    lt_of_le_of_lt (by exact_mod_cast Nat.mul_le_mul_right _ less) top
  have first := units_ofRatio_one_le some (upper (Nat.le_mul_of_pos_right _ powerPos))
  have second := units_ofRatio_one_le powerPos (upper (Nat.le_mul_of_pos_left _ some))
  have small : power ≤ largestPower := by
    have bounded : 10 ^ power * unitsOfOne < 2 ^ 53 * 2 ^ lastPlace := by
      have : ((10 ^ power * unitsOfOne : Nat) : ℚ) < 2 ^ 53 * 2 ^ lastPlace :=
        lt_trans (upper (Nat.le_mul_of_pos_left _ some)) (by nlinarith)
      exact_mod_cast this
    have ordered := Nat.lt_of_mul_lt_mul_right (Nat.lt_of_lt_of_le bounded Binary64.last_le)
    rw [Nat.pow_lt_pow_iff_right (by decide)] at ordered
    exact Nat.le_of_lt_succ ordered
  have unitsPos : (0 : ℚ) < unitsOfOne := by exact_mod_cast Binary64.unitsOfOne_pos
  have finite : roundBits
      ((ofRatio false significand 1).units * (ofRatio false (Nat.pow 10 power) 1).units)
      (Nat.pow 2 2148) < infinityBits := by
    rw [← Binary64.unitsOfOne_bounds.2.2]
    refine Binary64.roundBits_lt_infinityBits
      (Nat.mul_pos Binary64.unitsOfOne_pos Binary64.unitsOfOne_pos) ?_
    rw [Nat.cast_mul, Nat.cast_mul, Nat.cast_mul, mul_div_mul_right _ _ unitsPos.ne',
      div_lt_iff₀ unitsPos]
    rw [Nat.cast_mul] at first second close
    rw [Nat.cast_mul] at close
    exact product_lt (Nat.cast_nonneg _) (Nat.cast_nonneg _) unitsPos unit first second close
  have productFinite : ((ofRatio false significand 1).mul
      (ofRatio false (Nat.pow 10 power) 1)).isFinite = true := by
    rw [Binary64.isFinite_iff, Binary64.mul, Binary64.magnitude_ofRatio]
    exact finite
  rw [scaleUp?, if_pos small]
  dsimp only
  rw [if_pos productFinite]
  rfl

end Scaling

section Written

variable {n : NumberText} {ds : List Char} {k : Nat}

theorem gather_of_lt (digits : ∀ c ∈ ds, Numeral.isDigit c = true)
    (fits : k * 10 ^ ds.length + Numeral.value ds < UInt64.size) :
    gather k ds = (k * 10 ^ ds.length + Numeral.value ds, []) := by
  induction ds generalizing k with
  | nil => rw [gather, List.length_nil, Nat.pow_zero, Nat.mul_one]; rfl
  | cons c ds ih =>
    have whole : k * 10 ^ (c :: ds).length + Numeral.value (c :: ds) =
        (10 * k + Numeral.digitValue c) * 10 ^ ds.length + Numeral.value ds := by
      rw [Numeral.value_cons, List.length_cons, pow_succ]
      ring
    rw [whole] at fits ⊢
    have next : 10 * k + Numeral.digitValue c < UInt64.size :=
      Nat.lt_of_le_of_lt (Nat.le_trans (Nat.le_mul_of_pos_right _ (Nat.pow_pos (by decide)))
        (Nat.le_add_right _ _)) fits
    rw [gather, if_pos next, ih (List.forall_mem_cons.mp digits).2 fits]

theorem length_gather_le (k : Nat) (ds : List Char) : (gather k ds).2.length ≤ ds.length := by
  induction ds generalizing k with
  | nil => rw [gather]
  | cons c ds ih =>
    rw [gather]
    split
    · exact Nat.le_succ_of_le (ih _)
    · exact Nat.le_refl _

def NumberText.exponentValue (n : NumberText) : Int :=
  match n.exponent with
  | none => 0
  | some (negative, ds) => if negative then -(Numeral.value ds : Int) else Numeral.value ds

/-- Only scaling up can fail. -/
theorem toBinary64?_isSome {whole significand : Nat} {ignored : List Char}
    (gathered : gather 0 n.whole = (whole, []))
    (further : gather whole n.fraction = (significand, ignored))
    (short : n.exponentValue < 2 ^ 31)
    (scaled : 0 ≤ n.exponentValue - (n.fraction.length - ignored.length : Nat) →
      (scaleUp? (.ofRatio false significand 1)
        (n.exponentValue - (n.fraction.length - ignored.length : Nat)).toNat).isSome = true) :
    n.toBinary64?.isSome = true := by
  have unfolded : n.toBinary64? =
      let power : Int := 0 - ((n.fraction.length - ignored.length : Nat) : Int) + n.exponentValue
      (if decide (Nat.pow 2 31 ≤ n.exponentValue.natAbs) then
        if significand ≠ 0 ∧ 0 < n.exponentValue then none else some (.zero false)
      else if 0 ≤ power then scaleUp? (.ofRatio false significand 1) power.toNat
      else some (scaleDown (.ofRatio false significand 1) 4 power.natAbs)).map
        fun x => if n.negative then x.neg else x := by
    simp only [NumberText.toBinary64?, gathered, further]
    rfl
  rw [unfolded, Option.isSome_map]
  rw [show ∀ places : Nat, 0 - (places : Int) + n.exponentValue = n.exponentValue - places by
    intro places; omega]
  split
  · rename_i overlong
    have long : 2 ^ 31 ≤ n.exponentValue.natAbs := of_decide_eq_true overlong
    rw [if_neg (by omega)]
    rfl
  · split
    · rename_i up
      exact scaled up
    · rfl

/-- A number is a double if it is written as one and the double can be found. -/
theorem toJson?_isSome (broken : n.fraction ≠ [] ∨ n.exponent ≠ none)
    (found : n.toBinary64?.isSome = true) : n.toJson?.isSome = true := by
  rw [NumberText.toJson?, if_neg, Option.isSome_map]
  · exact found
  · rintro ⟨noFraction, noExponent, -⟩
    obtain fraction | exponent := broken
    · exact fraction (List.isEmpty_iff.mp noFraction)
    · exact exponent (Option.isNone_iff_eq_none.mp noExponent)

end Written

/-- The parts of digits with a decimal point among them; a whole number keeps one zero behind it. -/
def NumberText.positional (negative : Bool) (ds : List Char) (point : Int) : NumberText :=
  if point ≤ 0 then ⟨negative, ['0'], List.replicate (-point).toNat '0' ++ ds, none⟩
  else ⟨negative, ds.take point.toNat ++ List.replicate (point.toNat - ds.length) '0',
    if (ds.drop point.toNat).isEmpty then ['0'] else ds.drop point.toNat, none⟩

def NumberText.scientific (negative : Bool) (ds : List Char) (point : Int) : NumberText :=
  ⟨negative, ds.take 1, ds.drop 1, some (point - 1 < 0, Numeral.padded 2 (point - 1).natAbs)⟩

def NumberText.ofBinary64 (x : Binary64) : NumberText :=
  let (ds, point) := x.placed .even
  if -5 < point ∧ point ≤ 16 then positional x.isNegative ds point
  else scientific x.isNegative ds point

section Layout

open Binary64 (layOut withSign)

variable {lead : Char} {tail ds : List Char} {point : Int} {negative : Bool}

theorem not_mem_point (digits : ∀ c ∈ ds, Numeral.isDigit c = true) : '.' ∉ ds :=
  fun mem => absurd (digits '.' mem) (by decide)

theorem chars_positional (digits : ∀ c ∈ lead :: tail, Numeral.isDigit c = true) :
    (NumberText.positional negative (lead :: tail) point).chars =
      (if negative then ['-'] else []) ++
        (if (layOut (lead :: tail) point).contains '.' then layOut (lead :: tail) point
          else layOut (lead :: tail) point ++ ".0".toList) := by
  rw [NumberText.positional, layOut]
  split
  · have broken :
        ("0.".toList ++ List.replicate (-point).toNat '0' ++ lead :: tail).contains '.' = true := by
      simp
    rw [if_pos broken, NumberText.chars]
    simp [fractionChars, exponentChars]
  · rw [NumberText.chars]
    dsimp only
    congr 1
    have wholeDigits : '.' ∉ (lead :: tail).take point.toNat ++
        List.replicate (point.toNat - (lead :: tail).length) '0' := by
      refine not_mem_point fun c mem => ?_
      obtain mem | mem := List.mem_append.mp mem
      · exact digits c (List.mem_of_mem_take mem)
      · exact Numeral.isDigit_of_mem_zeros mem
    split
    · rw [if_neg (by rwa [List.contains_iff_mem])]
      rfl
    · rename_i some
      rw [if_pos (by simp), fractionChars, if_neg some]
      simp [exponentChars]

theorem chars_scientific :
    (NumberText.scientific negative (lead :: tail) point).chars =
      (if negative then ['-'] else []) ++
        ((lead :: tail).take 1 ++
          (if (lead :: tail).length = 1 then [] else '.' :: (lead :: tail).drop 1) ++
          'e' :: (if point - 1 < 0 then '-' else '+') :: Numeral.padded 2 (point - 1).natAbs) := by
  rw [NumberText.scientific, NumberText.chars]
  cases tail <;> simp [fractionChars, exponentChars]

theorem toList_withSign (x : Binary64) (cs : List Char) :
    (withSign x cs).toList = (if x.isNegative then ['-'] else []) ++ cs := by
  rw [withSign, String.toList_ofList]
  cases x.isNegative <;> rfl

theorem toList_toJsonText (placed : x.placed .even = (lead :: tail, point))
    (digits : ∀ c ∈ lead :: tail, Numeral.isDigit c = true) :
    x.toJsonText.toList = (NumberText.ofBinary64 x).chars := by
  rw [Binary64.toJsonText, NumberText.ofBinary64, placed]
  dsimp only
  split
  · rw [toList_withSign, chars_positional digits]
  · rw [toList_withSign, chars_scientific]

theorem writable_positional (digits : ∀ c ∈ lead :: tail, Numeral.isDigit c = true)
    (zero : lead = '0' → tail = [] ∧ point = 1) :
    (NumberText.positional negative (lead :: tail) point).Writable := by
  rw [NumberText.positional]
  split
  · refine ⟨fun c mem => ?_, ⟨'0', [], rfl, fun _ => rfl⟩, fun c mem => ?_, nofun⟩
    · rw [List.mem_singleton.mp mem]
      decide
    obtain mem | mem := List.mem_append.mp mem
    · exact Numeral.isDigit_of_mem_zeros mem
    · exact digits c mem
  · rename_i some
    obtain ⟨places, count⟩ := Nat.exists_eq_add_one_of_ne_zero (show point.toNat ≠ 0 by omega)
    refine ⟨fun c mem => ?_, ⟨lead, _, by rw [count, List.take_succ_cons, List.cons_append], ?_⟩,
      fun c mem => ?_, nofun⟩
    · obtain mem | mem := List.mem_append.mp mem
      · exact digits c (List.mem_of_mem_take mem)
      · exact Numeral.isDigit_of_mem_zeros mem
    · intro isZero
      obtain ⟨rfl, rfl⟩ := zero isZero
      obtain rfl : places = 0 := by omega
      rfl
    · dsimp only at mem
      split at mem
      · rw [List.mem_singleton.mp mem]
        decide
      · exact digits c (List.mem_of_mem_drop mem)

theorem writable_scientific (digits : ∀ c ∈ lead :: tail, Numeral.isDigit c = true) :
    (NumberText.scientific negative (lead :: tail) point).Writable where
  whole c mem := digits c (List.mem_of_mem_take mem)
  leads := ⟨lead, [], rfl, fun _ => rfl⟩
  fraction c mem := digits c (List.mem_of_mem_drop mem)
  exponent part same := by
    cases same
    exact ⟨Numeral.padded_ne_nil _ _, fun c mem => Numeral.isDigit_of_mem_padded mem⟩

/-- Sixteen digits and one behind them fit 64 bits, so a fraction always counts. -/
theorem toJson?_of_fraction {n : NumberText} (writable : n.Writable) (short : n.whole.length ≤ 16)
    (fraction : n.fraction ≠ []) (none : n.exponent = none) : n.toJson?.isSome = true := by
  obtain ⟨c, fraction, broken⟩ := List.exists_cons_of_ne_nil fraction
  have few : Numeral.value n.whole < 10 ^ 16 :=
    Nat.lt_of_lt_of_le (Numeral.value_lt writable.whole) (Nat.pow_le_pow_right (by decide) short)
  have digit := Numeral.digitValue_lt
    (writable.fraction c (by rw [broken]; exact List.mem_cons_self))
  have size : UInt64.size = 2 ^ 64 := rfl
  have whole : gather 0 n.whole = (Numeral.value n.whole, []) := by
    have gathered := gather_of_lt (k := 0) writable.whole (by omega)
    rwa [Nat.zero_mul, Nat.zero_add] at gathered
  have taken : (gather (Numeral.value n.whole) n.fraction).2.length < n.fraction.length := by
    rw [broken, gather, if_pos (by omega), List.length_cons]
    exact Nat.lt_succ_of_le (length_gather_le _ _)
  have exponent : n.exponentValue = 0 := by rw [NumberText.exponentValue, none]
  refine toJson?_isSome (.inl (by rw [broken]; exact List.cons_ne_nil _ _))
    (toBinary64?_isSome whole rfl (by omega) fun up => ?_)
  omega

theorem toJson?_positional (digits : ∀ c ∈ lead :: tail, Numeral.isDigit c = true)
    (zero : lead = '0' → tail = [] ∧ point = 1) (few : point ≤ 16) :
    (NumberText.positional negative (lead :: tail) point).toJson?.isSome = true := by
  refine toJson?_of_fraction (writable_positional digits zero) ?_ ?_ ?_
  · rw [NumberText.positional]
    split
    · exact Nat.le_of_ble_eq_true rfl
    · simp only [List.length_append, List.length_take, List.length_replicate]
      omega
  · rw [NumberText.positional]
    split
    · exact List.append_ne_nil_of_right_ne_nil _ (List.cons_ne_nil _ _)
    · dsimp only
      split
      · exact List.cons_ne_nil _ _
      · rename_i some
        exact fun empty => some (List.isEmpty_iff.mpr empty)
  · rw [NumberText.positional]
    split <;> rfl

theorem exponentValue_scientific (negative : Bool) (ds : List Char) (point : Int) :
    (NumberText.scientific negative ds point).exponentValue = point - 1 := by
  rw [NumberText.scientific, NumberText.exponentValue]
  simp only [Numeral.value_padded, decide_eq_true_eq]
  split <;> omega

theorem gather_lead (digits : ∀ c ∈ lead :: tail, Numeral.isDigit c = true) :
    gather 0 [lead] = (Numeral.digitValue lead, []) := by
  have digit := Numeral.digitValue_lt (digits lead List.mem_cons_self)
  have size : UInt64.size = 2 ^ 64 := rfl
  rw [gather, if_pos (by omega), gather, Nat.mul_zero, Nat.zero_add]

/-- What has a negative exponent is scaled down. -/
theorem toJson?_of_small (digits : ∀ c ∈ lead :: tail, Numeral.isDigit c = true)
    (small : point ≤ 0) :
    (NumberText.scientific negative (lead :: tail) point).toJson?.isSome = true := by
  have exponent := exponentValue_scientific negative (lead :: tail) point
  refine toJson?_isSome (.inr (by rw [NumberText.scientific]; exact Option.some_ne_none _))
    (toBinary64?_isSome (gather_lead digits) rfl (by omega) fun up => ?_)
  omega

/-- The digits and the exponent of a double below the three greatest are scaled up to a finite
one. -/
theorem toJson?_of_large (digits : ∀ c ∈ lead :: tail, Numeral.isDigit c = true)
    (some : 0 < Numeral.value (lead :: tail)) (fits : Numeral.value (lead :: tail) ≤ 10 ^ 17)
    (short : point ≤ 310) (below : x.magnitude + 4 ≤ Binary64.infinityBits)
    (rounds : ∃ num den : Nat, 0 < den ∧
      (num : ℚ) / den = Numeral.value (lead :: tail) * 10 ^ (point - (lead :: tail).length) ∧
      Binary64.roundBits num den = x.magnitude) :
    (NumberText.scientific negative (lead :: tail) point).toJson?.isSome = true := by
  have exponent := exponentValue_scientific negative (lead :: tail) point
  have size : UInt64.size = 2 ^ 64 := rfl
  have whole : Numeral.digitValue lead * 10 ^ tail.length + Numeral.value tail =
      Numeral.value (lead :: tail) := (Numeral.value_cons lead tail).symm
  have gathered : gather (Numeral.digitValue lead) tail = (Numeral.value (lead :: tail), []) := by
    rw [gather_of_lt (List.forall_mem_cons.mp digits).2 (by omega), whole]
  refine toJson?_isSome (.inr (by rw [NumberText.scientific]; exact Option.some_ne_none _))
    (toBinary64?_isSome (gather_lead digits) gathered (by omega) fun up => ?_)
  refine scaleUp?_isSome some below ?_
  obtain ⟨num, den, pos, ratio, rounds⟩ := rounds
  have behind : ((NumberText.scientific negative (lead :: tail) point).fraction.length -
      ([] : List Char).length) = tail.length := rfl
  rw [behind] at up ⊢
  have power : point - (lead :: tail).length =
      (((NumberText.scientific negative (lead :: tail) point).exponentValue - tail.length).toNat :
        Int) := by
    rw [List.length_cons]
    omega
  refine ⟨num, den, pos, ?_, rounds⟩
  rw [ratio, power, zpow_natCast, Nat.cast_mul, Nat.cast_pow, Nat.cast_ofNat]

end Layout

/-- The digits of the three greatest doubles are scaled up to finite ones too. -/
theorem toBinary64?_of_greatest : ∀ top ∈ [1, 2, 3],
    (NumberText.ofBinary64 (.ofMagnitude false (Binary64.infinityBits - top))).toBinary64?.isSome =
      true := by
  decide +kernel

theorem toBinary64?_isSome_congr {n m : NumberText} (whole : n.whole = m.whole)
    (fraction : n.fraction = m.fraction) (exponent : n.exponent = m.exponent) :
    n.toBinary64?.isSome = m.toBinary64?.isSome := by
  simp only [NumberText.toBinary64?, Option.isSome_map, whole, fraction, exponent]

/-- Whether a double is read does not depend on its sign. -/
theorem toBinary64?_congr {y : Binary64} (same : x.magnitude = y.magnitude) :
    (NumberText.ofBinary64 x).toBinary64?.isSome =
      (NumberText.ofBinary64 y).toBinary64?.isSome := by
  rw [NumberText.ofBinary64, NumberText.ofBinary64, Binary64.placed_congr same]
  dsimp only
  split
  · unfold NumberText.positional
    split <;> exact toBinary64?_isSome_congr rfl rfl rfl
  · exact toBinary64?_isSome_congr rfl rfl rfl

theorem toBinary64?_of_near_infinity (finite : x.isFinite = true)
    (near : ¬ x.magnitude + 4 ≤ Binary64.infinityBits) :
    (NumberText.ofBinary64 x).toBinary64?.isSome = true := by
  have finite := Binary64.isFinite_iff.mp finite
  obtain ⟨top, few, same⟩ : ∃ top ∈ [1, 2, 3], x.magnitude = Binary64.infinityBits - top := by
    refine ⟨Binary64.infinityBits - x.magnitude, ?_, by omega⟩
    simp only [List.mem_cons, List.not_mem_nil, or_false]
    omega
  have small : Binary64.infinityBits - top < 2 ^ 63 :=
    Nat.lt_of_le_of_lt (Nat.sub_le _ _) (by decide)
  have sameBits := same.trans (Binary64.magnitude_ofMagnitude false small).symm
  rw [toBinary64?_congr sameBits]
  exact toBinary64?_of_greatest top few

/-- The text of a double is a written number, which can be read. -/
structure Readable (x : Binary64) : Prop where
  writable : (NumberText.ofBinary64 x).Writable
  text : x.toJsonText.toList = (NumberText.ofBinary64 x).chars
  read : (NumberText.ofBinary64 x).toJson?.isSome = true

theorem readable_zero (zero : x.magnitude = 0) : Readable x := by
  have placed : x.placed .even = ('0' :: [], 1) := by
    have isZero : x.isZero = true := beq_iff_eq.mpr zero
    rw [Binary64.placed, if_pos isZero]
  have digits : ∀ c ∈ ['0'], Numeral.isDigit c = true :=
    List.forall_mem_singleton.mpr (by decide)
  have parts : NumberText.ofBinary64 x = .positional x.isNegative ['0'] 1 := by
    rw [NumberText.ofBinary64, placed]
    rfl
  refine ⟨?_, toList_toJsonText placed digits, ?_⟩
  · rw [parts]
    exact writable_positional digits fun _ => ⟨rfl, rfl⟩
  · rw [parts]
    exact toJson?_positional digits (fun _ => ⟨rfl, rfl⟩) (by decide)

theorem readable_of_finite (finite : x.isFinite = true) : Readable x := by
  by_cases nonzero : x.magnitude = 0
  · exact readable_zero nonzero
  obtain ⟨lead, tail, zeros, placed, leads, digits, value, order⟩ :=
    Binary64.placed_spec .even finite nonzero
  obtain ⟨reads, some, fits⟩ := Binary64.shortest_spec .even finite nonzero
  obtain ⟨short, num, den, pos, ratio, rounds⟩ :=
    Binary64.exists_ratio_of_readsBack finite nonzero reads
  rw [Binary64.Digits.value, value] at ratio
  rw [value] at some fits
  have text := toList_toJsonText placed digits
  have parts : NumberText.ofBinary64 x =
      if -5 < (x.shortest .even).order ∧ (x.shortest .even).order ≤ 16 then
        .positional x.isNegative (lead :: tail) (x.shortest .even).order
      else .scientific x.isNegative (lead :: tail) (x.shortest .even).order := by
    rw [NumberText.ofBinary64, placed]
  have found : ¬ x.magnitude + 4 ≤ Binary64.infinityBits →
      (NumberText.ofBinary64 x).toBinary64?.isSome = true := toBinary64?_of_near_infinity finite
  generalize (x.shortest .even).order = point at *
  generalize (x.shortest .even).exponent = exponent at *
  refine ⟨?_, text, ?_⟩
  · rw [parts]
    split
    · exact writable_positional digits fun zero => absurd zero leads
    · exact writable_scientific digits
  · rw [parts] at found ⊢
    split
    · rename_i inside
      exact toJson?_positional digits (fun zero => absurd zero leads) inside.2
    rename_i outside
    rw [if_neg outside] at found
    by_cases small : point ≤ 0
    · exact toJson?_of_small digits small
    by_cases below : x.magnitude + 4 ≤ Binary64.infinityBits
    · have significant : 0 < Numeral.value (lead :: tail) := Nat.pos_of_mul_pos_right some
      refine toJson?_of_large digits significant
        (Nat.le_trans (Nat.le_mul_of_pos_right _ (Nat.pow_pos (by decide))) fits) short below
        ⟨num, den, pos, ?_, rounds⟩
      rw [ratio, order, show ((lead :: tail).length : Int) + zeros + exponent -
        (lead :: tail).length = zeros + exponent by omega, zpow_add₀ (by norm_num), zpow_natCast]
      push_cast
      rw [mul_assoc]
    · exact toJson?_isSome (.inr (Option.some_ne_none _)) (found below)

/-- A double need not be read as itself: here the digits are rounded, then divided by `10 ^ 15`, and
the next double comes out. -/
example : chars (.float ⟨0x40422D3008D85060⟩) = "36.353028398153356".toList ∧
    (NumberText.mk false "36".toList "353028398153356".toList none).toBinary64? =
      some ⟨0x40422D3008D85061⟩ := by
  decide +kernel

end Geoflow.Json
