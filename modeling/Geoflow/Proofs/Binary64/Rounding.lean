import Geoflow.Binary64.Basic
import Mathlib.Tactic.Linarith
import Mathlib.Tactic.FieldSimp
import Mathlib.Tactic.Ring
import Mathlib.Tactic.NormNum

set_option autoImplicit false

namespace Geoflow.Binary64

variable {num den units s k : Nat} {x : Binary64}

theorem cast_div_bounds (num : Nat) (pos : 0 < den) :
    ((num / den : Nat) : ℚ) ≤ (num : ℚ) / den ∧ (num : ℚ) / den < (num / den : Nat) + 1 := by
  have posQ : (0 : ℚ) < den := by exact_mod_cast pos
  constructor
  · rw [le_div_iff₀ posQ]
    exact_mod_cast Nat.div_mul_le_self num den
  · rw [div_lt_iff₀ posQ]
    exact_mod_cast Nat.lt_mul_of_div_lt (Nat.lt_succ_self _) pos

theorem divHalfEven_bounds (num : Nat) (pos : 0 < den) :
    2 * num ≤ (2 * divHalfEven num den + 1) * den ∧
      2 * divHalfEven num den * den ≤ 2 * num + den := by
  have parts := Nat.div_add_mod num den
  have below := Nat.mod_lt num pos
  unfold divHalfEven
  generalize num / den = quotient at parts ⊢
  generalize num % den = rest at parts below ⊢
  have whole : quotient * den + rest = num := by rw [Nat.mul_comm, parts]
  dsimp only
  split
  · constructor <;> nlinarith
  · split
    · constructor <;> nlinarith
    · have half : 2 * rest = den := by omega
      obtain even | odd := Nat.mod_two_eq_zero_or_one quotient
      · rw [even]; constructor <;> nlinarith
      · rw [odd]; constructor <;> nlinarith

theorem abs_divHalfEven_sub_le (num : Nat) (pos : 0 < den) :
    |(divHalfEven num den : ℚ) - num / den| ≤ 1 / 2 := by
  obtain ⟨above, below⟩ := divHalfEven_bounds num pos
  have posQ : (0 : ℚ) < den := by exact_mod_cast pos
  have aboveQ : 2 * (num : ℚ) ≤ (2 * divHalfEven num den + 1) * den := by exact_mod_cast above
  have belowQ : 2 * (divHalfEven num den : ℚ) * den ≤ 2 * num + den := by exact_mod_cast below
  have quotient : (num : ℚ) / den * den = num := div_mul_cancel₀ _ posQ.ne'
  rw [abs_le]
  constructor <;> nlinarith

/-- A whole number less than half a unit away is the nearest one. -/
theorem divHalfEven_eq_of_near (pos : 0 < den) (near : |(k : ℚ) - num / den| < 1 / 2) :
    divHalfEven num den = k := by
  have bound := abs_divHalfEven_sub_le num pos
  rw [abs_le] at bound
  rw [abs_lt] at near
  have up : (divHalfEven num den : ℚ) < k + 1 := by linarith
  have down : (k : ℚ) < divHalfEven num den + 1 := by linarith
  have up : divHalfEven num den < k + 1 := by exact_mod_cast up
  have down : k < divHalfEven num den + 1 := by exact_mod_cast down
  omega

theorem infinityBits_eq : infinityBits = 2047 * 2 ^ 52 := rfl

theorem magnitude_ofMagnitude (negative : Bool) {magnitude : Nat} (small : magnitude < 2 ^ 63) :
    (ofMagnitude negative magnitude).magnitude = magnitude := by
  have unit : signUnit = 2 ^ 63 := rfl
  rw [Binary64.magnitude, ofMagnitude, unit]
  dsimp only
  rw [UInt64.toNat_ofNat']
  split <;> omega

/-- Bits are a place `s` and a number `k` of units of that place. -/
theorem units_eq (parts : x.magnitude = s * 2 ^ 52 + k) (most : k ≤ 2 ^ 53)
    (normal : s = 0 ∨ 2 ^ 52 ≤ k) : x.units = k * 2 ^ s := by
  have unit : Nat.pow 2 52 = 2 ^ 52 := rfl
  rw [Binary64.units, significand, scale, parts, unit]
  by_cases small : k < 2 ^ 52
  · obtain rfl | large := normal
    · rw [Nat.zero_mul, Nat.zero_add, Nat.div_eq_of_lt small, Nat.mod_eq_of_lt small]
      rfl
    · exact absurd small (Nat.not_lt.mpr large)
  · by_cases carried : k = 2 ^ 53
    · subst carried
      have place : (s * 2 ^ 52 + 2 ^ 53) / 2 ^ 52 = s + 2 := by omega
      have rest : (s * 2 ^ 52 + 2 ^ 53) % 2 ^ 52 = 0 := by omega
      rw [place, rest, if_neg (by omega)]
      change (0 + 2 ^ 52) * 2 ^ (s + 1) = _
      rw [Nat.pow_succ]
      ring
    · have place : (s * 2 ^ 52 + k) / 2 ^ 52 = s + 1 := by omega
      have rest : (s * 2 ^ 52 + k) % 2 ^ 52 = k - 2 ^ 52 := by omega
      rw [place, rest, if_neg (by omega), Nat.sub_add_cancel (by omega), Nat.add_sub_cancel]
      rfl

theorem exists_parts (x : Binary64) :
    ∃ s k, x.magnitude = s * 2 ^ 52 + k ∧ k < 2 ^ 53 ∧ (s = 0 ∨ 2 ^ 52 ≤ k) := by
  by_cases small : x.magnitude < 2 ^ 52
  · exact ⟨0, x.magnitude, by omega, by omega, .inl rfl⟩
  · exact ⟨x.magnitude / 2 ^ 52 - 1, x.magnitude % 2 ^ 52 + 2 ^ 52, by omega, by omega,
      .inr (by omega)⟩

@[irreducible] def unitsOfOne : Nat := Nat.pow 2 1074

def lastPlace : Nat := 2045

/-- One is a normal number of units and at most `10 ^ 324` of them; a product counts in squares. -/
theorem unitsOfOne_bounds : 2 ^ 52 ≤ unitsOfOne ∧ unitsOfOne ≤ 10 ^ 324 ∧
    unitsOfOne * unitsOfOne = Nat.pow 2 2148 := by
  decide +kernel

theorem unitsOfOne_pos : 0 < unitsOfOne :=
  Nat.lt_of_lt_of_le (Nat.two_pow_pos 52) unitsOfOne_bounds.1

/-- How many digits a finite double has in front of its point at most. -/
def mostPlaces : Nat := 309

theorem last_le : 2 ^ 53 * 2 ^ lastPlace ≤ 10 ^ mostPlaces * unitsOfOne := by decide +kernel

/-- The bits nearest to `units / den` units. -/
def nearest (units den : Nat) : Nat :=
  let shift := (units / den).log2 - 52
  min (shift * 2 ^ 52 + divHalfEven units (den * 2 ^ shift)) infinityBits

theorem roundBits_eq (num den : Nat) : roundBits num den = nearest (num * unitsOfOne) den := by
  unfold roundBits nearest unitsOfOne
  rfl

theorem nearest_eq (pos : 0 < den) (least : s = 0 ∨ 2 ^ (52 + s) * den ≤ units)
    (most : units < 2 ^ (53 + s) * den) :
    nearest units den = min (s * 2 ^ 52 + divHalfEven units (den * 2 ^ s)) infinityBits := by
  have most : units / den < 2 ^ (53 + s) := (Nat.div_lt_iff_lt_mul pos).mpr most
  have shift : (units / den).log2 - 52 = s := by
    by_cases zero : units / den = 0
    · obtain rfl | least := least
      · rw [zero]; rfl
      · have least := (Nat.le_div_iff_mul_le pos).mpr least
        rw [zero] at least
        exact absurd least (Nat.not_le.mpr (Nat.two_pow_pos _))
    · have below := (Nat.log2_lt zero).mpr most
      obtain rfl | least := least
      · omega
      · have above := (Nat.le_log2 zero).mpr ((Nat.le_div_iff_mul_le pos).mpr least)
        omega
  rw [nearest, shift]

theorem exists_place (pos : 0 < den) (units : Nat) :
    ∃ s, (s = 0 ∨ 2 ^ (52 + s) * den ≤ units) ∧ units < 2 ^ (53 + s) * den := by
  refine ⟨(units / den).log2 - 52, ?_, ?_⟩
  · by_cases small : (units / den).log2 ≤ 52
    · exact .inl (by omega)
    · refine .inr ?_
      have nonzero : units / den ≠ 0 := by
        rintro zero
        rw [zero] at small
        exact small (by decide)
      rw [← Nat.le_div_iff_mul_le pos, Nat.add_sub_cancel' (by omega)]
      exact Nat.log2_self_le nonzero
  · rw [← Nat.div_lt_iff_lt_mul pos]
    refine Nat.lt_of_lt_of_le Nat.lt_log2_self (Nat.pow_le_pow_right (by decide) (by omega))

/-- Bounds on a number of units, as bounds on the ratio. -/
theorem le_ratio_iff (pos : 0 < den) :
    2 ^ (52 + s) * den ≤ units ↔ (2 : ℚ) ^ 52 * 2 ^ s ≤ (units : ℚ) / den := by
  have posQ : (0 : ℚ) < den := by exact_mod_cast pos
  rw [le_div_iff₀ posQ, ← pow_add]
  exact_mod_cast Iff.rfl

theorem ratio_lt_iff (pos : 0 < den) :
    units < 2 ^ (53 + s) * den ↔ (units : ℚ) / den < 2 ^ 53 * 2 ^ s := by
  have posQ : (0 : ℚ) < den := by exact_mod_cast pos
  rw [div_lt_iff₀ posQ, ← pow_add]
  exact_mod_cast Iff.rfl

theorem ratio_at_place (units den s : Nat) :
    (units : ℚ) / (den * 2 ^ s : Nat) = units / den / 2 ^ s := by
  rw [Nat.cast_mul, Nat.cast_pow, Nat.cast_ofNat, div_mul_eq_div_div]

/-- Rounding finds a place and the number of units there that is nearest to the ratio. -/
theorem nearest_spec (pos : 0 < den) (units : Nat) :
    ∃ s k : Nat, nearest units den = min (s * 2 ^ 52 + k) infinityBits ∧ k ≤ 2 ^ 53 ∧
      (s = 0 ∨ 2 ^ 52 ≤ k) ∧ (s = 0 ∨ (2 : ℚ) ^ 52 * 2 ^ s ≤ (units : ℚ) / den) ∧
      |(k : ℚ) * 2 ^ s - units / den| ≤ 2 ^ s / 2 := by
  obtain ⟨s, least, most⟩ := exists_place pos units
  have posPlace : 0 < den * 2 ^ s := Nat.mul_pos pos (Nat.two_pow_pos s)
  obtain ⟨above, below⟩ := divHalfEven_bounds units posPlace
  have error := abs_divHalfEven_sub_le units posPlace
  refine ⟨s, _, nearest_eq pos least most, ?_, ?_, ?_, ?_⟩
  · rw [Nat.pow_add] at most
    by_contra large
    nlinarith
  · refine least.imp_right fun least => ?_
    rw [Nat.pow_add] at least
    by_contra small
    nlinarith
  · exact least.imp_right (le_ratio_iff pos).mp
  · have unit : (0 : ℚ) < 2 ^ s := by positivity
    have scaled : (units : ℚ) / den = units / den / 2 ^ s * 2 ^ s := by
      rw [div_mul_cancel₀ _ unit.ne']
    rw [ratio_at_place, abs_le] at error
    rw [scaled, abs_le]
    constructor <;> nlinarith

/-- A ratio in a place is rounded to the number of units there that is less than half a unit off. -/
theorem nearest_at_place (pos : 0 < den) (least : s = 0 ∨ (2 : ℚ) ^ 52 * 2 ^ s ≤ (units : ℚ) / den)
    (most : (units : ℚ) / den < 2 ^ 53 * 2 ^ s)
    (near : |(k : ℚ) * 2 ^ s - units / den| < 2 ^ s / 2) :
    nearest units den = min (s * 2 ^ 52 + k) infinityBits := by
  have unit : (0 : ℚ) < 2 ^ s := by positivity
  have scaled : (units : ℚ) / den = units / den / 2 ^ s * 2 ^ s := by
    rw [div_mul_cancel₀ _ unit.ne']
  have half : |(k : ℚ) - units / den / 2 ^ s| < 1 / 2 := by
    rw [abs_lt] at near ⊢
    generalize (units : ℚ) / den / 2 ^ s = t at scaled ⊢
    rw [scaled] at near
    constructor <;> nlinarith
  rw [← ratio_at_place] at half
  rw [nearest_eq pos (least.imp_right (le_ratio_iff pos).mpr) ((ratio_lt_iff pos).mpr most),
    divHalfEven_eq_of_near (Nat.mul_pos pos (Nat.two_pow_pos s)) half]

/-- A ratio that is off a double by less than a quarter of its last place is rounded to it, also
below a power of two, where the doubles stand closer. -/
theorem nearest_of_near (pos : 0 < den) (some : 0 < k) (most : k < 2 ^ 53)
    (normal : s = 0 ∨ 2 ^ 52 ≤ k)
    (near : |(k : ℚ) * 2 ^ s - units / den| < k * 2 ^ s / 2 ^ 54) :
    nearest units den = min (s * 2 ^ 52 + k) infinityBits := by
  have someQ : (1 : ℚ) ≤ k := by exact_mod_cast some
  have mostQ : (k : ℚ) ≤ 2 ^ 53 - 1 := by
    have : k + 1 ≤ 2 ^ 53 := most
    have : (k : ℚ) + 1 ≤ 2 ^ 53 := by exact_mod_cast this
    linarith
  have unit : (0 : ℚ) < 2 ^ s := by positivity
  have bounds := abs_lt.mp near
  by_cases inPlace : s = 0 ∨ (2 : ℚ) ^ 52 * 2 ^ s ≤ (units : ℚ) / den
  · have below : (units : ℚ) / den < 2 ^ 53 * 2 ^ s := by nlinarith
    exact nearest_at_place pos inPlace below (lt_of_lt_of_le near (by nlinarith))
  · -- Below a power of two the ratio lies one place lower, where the double has twice the units.
    rw [not_or, not_le] at inPlace
    obtain ⟨positive, below⟩ := inPlace
    obtain ⟨place, rfl⟩ := Nat.exists_eq_add_one_of_ne_zero positive
    have leastQ : (2 : ℚ) ^ 52 ≤ k := by exact_mod_cast normal.resolve_left positive
    have unitBelow : (0 : ℚ) < 2 ^ place := by positivity
    rw [pow_succ (2 : ℚ) place] at bounds below
    have lowest : (k : ℚ) < 2 ^ 52 + 1 := by nlinarith
    have lowest : k = 2 ^ 52 := by
      have : k < 2 ^ 52 + 1 := by exact_mod_cast lowest
      have := normal.resolve_left positive
      omega
    subst lowest
    push_cast at bounds
    have above : (2 : ℚ) ^ 52 * 2 ^ place ≤ units / den := by nlinarith
    have most : (units : ℚ) / den < 2 ^ 53 * 2 ^ place := by nlinarith
    rw [show (place + 1) * 2 ^ 52 + 2 ^ 52 = place * 2 ^ 52 + 2 ^ 53 by omega]
    refine nearest_at_place pos (.inr above) most ?_
    push_cast
    rw [abs_lt]
    constructor <;> nlinarith

theorem isFinite_iff : x.isFinite = true ↔ x.magnitude < infinityBits := decide_eq_true_iff

theorem magnitude_ofRatio (negative : Bool) (num den : Nat) :
    (ofRatio negative num den).magnitude = roundBits num den := by
  refine magnitude_ofMagnitude _ (Nat.lt_of_le_of_lt (Nat.min_le_right _ _) ?_)
  decide

/-- What lies close to a finite double rounds to it. -/
theorem roundBits_of_near (pos : 0 < den) (finite : x.isFinite = true) (nonzero : x.magnitude ≠ 0)
    (near : |(x.units : ℚ) - (num * unitsOfOne : Nat) / den| < x.units / 2 ^ 54) :
    roundBits num den = x.magnitude := by
  obtain ⟨s, k, parts, most, normal⟩ := exists_parts x
  have some : 0 < k := by omega
  rw [units_eq parts (Nat.le_of_lt most) normal, Nat.cast_mul, Nat.cast_pow, Nat.cast_ofNat] at near
  rw [roundBits_eq, nearest_of_near pos some most normal near, parts]
  exact Nat.min_eq_left (Nat.le_of_lt (parts ▸ isFinite_iff.mp finite))

/-- A double that many bits below infinity is as many units of the last place below it. -/
theorem units_add_le {top : Nat} (below : x.magnitude + top ≤ infinityBits) (some : 0 < top)
    (few : top ≤ 2 ^ 52) : x.units + top * 2 ^ lastPlace ≤ 2 ^ 53 * 2 ^ lastPlace := by
  obtain ⟨s, k, parts, most, normal⟩ := exists_parts x
  rw [parts, infinityBits_eq] at below
  rw [units_eq parts (Nat.le_of_lt most) normal]
  have last : lastPlace = 2045 := rfl
  have before : s ≤ lastPlace := by omega
  have unit := Nat.two_pow_pos lastPlace
  obtain rfl | before := Nat.eq_or_lt_of_le before
  · have fewer : k + top ≤ 2 ^ 53 := by omega
    nlinarith
  · have power : 2 ^ (s + 1) ≤ 2 ^ lastPlace := Nat.pow_le_pow_right (by decide) before
    rw [pow_succ] at power
    nlinarith [Nat.two_pow_pos s]

theorem units_congr {y : Binary64} (same : x.magnitude = y.magnitude) : x.units = y.units := by
  rw [units, significand, scale, same, units, significand, scale]

theorem roundBits_lt_infinityBits (pos : 0 < den)
    (below : ((num * unitsOfOne : Nat) : ℚ) / den < (2 ^ 53 - 1 / 2) * 2 ^ lastPlace) :
    roundBits num den < infinityBits := by
  obtain ⟨s, k, rounded, most, -, least, error⟩ := nearest_spec pos (num * unitsOfOne)
  rw [roundBits_eq, rounded, min_lt_iff, infinityBits_eq]
  left
  have unit : (0 : ℚ) < 2 ^ lastPlace := by positivity
  obtain before | rfl | behind := Nat.lt_trichotomy s lastPlace
  · have : s < 2045 := before
    omega
  · rw [abs_le] at error
    have fewer : (k : ℚ) < 2 ^ 53 := by nlinarith
    have fewer : k < 2 ^ 53 := by exact_mod_cast fewer
    have : lastPlace = 2045 := rfl
    omega
  · exfalso
    have power : (2 : ℚ) ^ (lastPlace + 1) ≤ 2 ^ s := pow_le_pow_right₀ (by norm_num) behind
    rw [pow_succ] at power
    obtain rfl | least := least
    · exact absurd behind (Nat.not_lt_zero _)
    · nlinarith

/-- A rounded number that is not small is off by `2 ^ -53` of itself at most. -/
theorem units_ofRatio_bounds (negative : Bool) (pos : 0 < den)
    (finite : roundBits num den < infinityBits)
    (normal : 2 ^ 52 ≤ ((num * unitsOfOne : Nat) : ℚ) / den) :
    ((ofRatio negative num den).units : ℚ) ≤ (num * unitsOfOne : Nat) / den * (1 + 1 / 2 ^ 53) ∧
      ((num * unitsOfOne : Nat) : ℚ) / den ≤
        (ofRatio negative num den).units * (1 + 1 / 2 ^ 53) := by
  obtain ⟨s, k, rounded, most, large, least, error⟩ := nearest_spec pos (num * unitsOfOne)
  have bits : (ofRatio negative num den).magnitude = s * 2 ^ 52 + k := by
    rw [magnitude_ofRatio]
    rw [roundBits_eq, rounded] at finite ⊢
    exact Nat.min_eq_left (Nat.le_of_lt ((min_lt_iff.mp finite).resolve_right (lt_irrefl _)))
  rw [units_eq bits most large, Nat.cast_mul, Nat.cast_pow, Nat.cast_ofNat]
  have unit : (0 : ℚ) < 2 ^ s := by positivity
  have inPlace : (2 : ℚ) ^ 52 * 2 ^ s ≤ (num * unitsOfOne : Nat) / den := by
    obtain rfl | least := least
    · rw [pow_zero, mul_one]
      exact normal
    · exact least
  rw [abs_le] at error
  have many : 2 ^ 52 ≤ k := by
    obtain rfl | many := large
    · rw [pow_zero] at error
      have above : (2 : ℚ) ^ 52 < k + 1 := by linarith
      have above : 2 ^ 52 < k + 1 := by exact_mod_cast above
      omega
    · exact many
  have manyQ : (2 : ℚ) ^ 52 ≤ k := by exact_mod_cast many
  constructor <;> nlinarith

end Geoflow.Binary64
