import Geoflow.Proofs.Binary64.Rounding
import Mathlib.Algebra.Order.Field.Basic

set_option autoImplicit false

namespace Geoflow.Binary64

variable {num den units s k : Nat} {x y : Binary64} {negative : Bool} {v : ℚ}

def signed (negative : Bool) (v : ℚ) : ℚ := if negative then -v else v

def toRat (x : Binary64) : ℚ := signed x.isNegative (x.units / unitsOfOne)

/-- The middle between the greatest double and the next power of two. -/
def overflow : ℚ := 2 ^ 1024 - 2 ^ 970

/-- A double that is the correct rounding of an exact value; the sign is one of its own, since a
zero has one too. -/
structure Rounds (negative : Bool) (v : ℚ) (x : Binary64) : Prop where
  sign : x.isNegative = negative
  infinite : overflow ≤ |v| → x.magnitude = infinityBits
  finite : |v| < overflow → x.isFinite = true
  near : |v| < overflow → ∀ y : Binary64, y.isFinite = true → |x.toRat - v| ≤ |y.toRat - v|
  even : |v| < overflow → ∀ y : Binary64, y.isFinite = true → y.magnitude ≠ x.magnitude →
    |y.toRat - v| = |x.toRat - v| → x.magnitude % 2 = 0

@[simp] theorem abs_signed (negative : Bool) (v : ℚ) : |signed negative v| = |v| := by
  cases negative
  · rfl
  · exact abs_neg v

theorem abs_signed_sub_signed (negative : Bool) (v w : ℚ) :
    |signed negative v - signed negative w| = |v - w| := by
  cases negative
  · rfl
  · change |-v - -w| = |v - w|
    rw [← abs_neg (v - w)]
    congr 1
    ring

theorem abs_sub_le_signed {v w : ℚ} (negative other : Bool) (nonneg : 0 ≤ v) (nonneg' : 0 ≤ w) :
    |v - w| ≤ |signed negative v - signed other w| := by
  by_cases same : negative = other
  · rw [same, abs_signed_sub_signed]
  · have apart : |signed negative v - signed other w| = v + w := by
      cases negative <;> cases other
      · exact absurd rfl same
      · change |v - -w| = v + w
        rw [sub_neg_eq_add, abs_of_nonneg (add_nonneg nonneg nonneg')]
      · change |-v - w| = v + w
        rw [← neg_add', abs_neg, abs_of_nonneg (add_nonneg nonneg nonneg')]
      · exact absurd rfl same
    rw [apart, abs_le]
    constructor <;> linarith

theorem units_div_nonneg (x : Binary64) : (0 : ℚ) ≤ x.units / unitsOfOne := by positivity

theorem isNegative_ofMagnitude (negative : Bool) {magnitude : Nat} (small : magnitude < 2 ^ 63) :
    (ofMagnitude negative magnitude).isNegative = negative := by
  have unit : signUnit = 2 ^ 63 := rfl
  rw [isNegative, ofMagnitude, unit]
  dsimp only
  rw [UInt64.toNat_ofNat']
  cases negative
  · rw [if_neg (by decide), Nat.mod_eq_of_lt (by omega)]
    exact decide_eq_false (by omega)
  · rw [if_pos rfl, Nat.mod_eq_of_lt (by omega)]
    exact decide_eq_true (by omega)

/-- A double is its sign and its magnitude. -/
theorem eq_of_parts (sign : x.isNegative = y.isNegative) (same : x.magnitude = y.magnitude) :
    x = y := by
  have unit : signUnit = 2 ^ 63 := rfl
  have below := x.bits.toNat_lt
  have below' := y.bits.toNat_lt
  rw [isNegative, isNegative, decide_eq_decide, unit] at sign
  rw [magnitude, magnitude, unit] at same
  have bits : x.bits.toNat = y.bits.toNat := by omega
  cases x
  cases y
  exact congrArg mk (UInt64.toNat.inj bits)

/-- Whatever a place holds is at most as much as what is normal in a higher place. -/
theorem place_le_place {s' k' : Nat} (lower : s < s') (most : k ≤ 2 ^ 53) (many : 2 ^ 52 ≤ k') :
    k * 2 ^ s ≤ k' * 2 ^ s' := by
  have power : 2 ^ (s + 1) ≤ 2 ^ s' := Nat.pow_le_pow_right (by decide) lower
  rw [Nat.pow_succ] at power
  calc k * 2 ^ s ≤ 2 ^ 53 * 2 ^ s := Nat.mul_le_mul_right _ most
    _ = 2 ^ 52 * (2 ^ s * 2) := by ring
    _ ≤ k' * 2 ^ s' := Nat.mul_le_mul many power

theorem units_lt_units (less : x.magnitude < y.magnitude) : x.units < y.units := by
  obtain ⟨s, k, parts, most, normal⟩ := exists_parts x
  obtain ⟨s', k', parts', most', normal'⟩ := exists_parts y
  rw [units_eq parts (Nat.le_of_lt most) normal, units_eq parts' (Nat.le_of_lt most') normal']
  obtain lower | rfl | higher := Nat.lt_trichotomy s s'
  · have many : 2 ^ 52 ≤ k' := normal'.resolve_left (Nat.ne_zero_of_lt lower)
    have next : k * 2 ^ s < (k + 1) * 2 ^ s :=
      Nat.mul_lt_mul_of_pos_right (Nat.lt_succ_self k) (Nat.two_pow_pos s)
    exact Nat.lt_of_lt_of_le next (place_le_place lower most many)
  · exact Nat.mul_lt_mul_of_pos_right (by omega) (Nat.two_pow_pos s)
  · have many : 2 ^ 52 ≤ k := normal.resolve_left (Nat.ne_zero_of_lt higher)
    omega

theorem magnitude_eq_of_units (same : x.units = y.units) : x.magnitude = y.magnitude := by
  obtain less | equal | more := Nat.lt_trichotomy x.magnitude y.magnitude
  · exact absurd same (Nat.ne_of_lt (units_lt_units less))
  · exact equal
  · exact absurd same (Nat.ne_of_gt (units_lt_units more))

/-- No double lies between neighbours of a place. -/
theorem units_le_or_le (most : k < 2 ^ 53) (normal : s = 0 ∨ 2 ^ 52 ≤ k) (y : Binary64) :
    y.units ≤ k * 2 ^ s ∨ (k + 1) * 2 ^ s ≤ y.units := by
  obtain ⟨s', k', parts, most', normal'⟩ := exists_parts y
  rw [units_eq parts (Nat.le_of_lt most') normal']
  obtain lower | rfl | higher := Nat.lt_trichotomy s' s
  · have many : 2 ^ 52 ≤ k := normal.resolve_left (Nat.ne_zero_of_lt lower)
    exact .inl (place_le_place lower (Nat.le_of_lt most') many)
  · obtain fewer | more := Nat.lt_or_ge k k'
    · exact .inr (Nat.mul_le_mul_right _ fewer)
    · exact .inl (Nat.mul_le_mul_right _ more)
  · have many : 2 ^ 52 ≤ k' := normal'.resolve_left (Nat.ne_zero_of_lt higher)
    exact .inr (place_le_place higher most many)

theorem divHalfEven_neighbour (num den : Nat) :
    divHalfEven num den = num / den ∨ divHalfEven num den = num / den + 1 := by
  unfold divHalfEven
  dsimp only
  split
  · exact .inl rfl
  · split
    · exact .inr rfl
    · omega

/-- What is half a unit off has been rounded to the even number. -/
theorem divHalfEven_even (pos : 0 < den)
    (half : |(divHalfEven num den : ℚ) - num / den| = 1 / 2) : divHalfEven num den % 2 = 0 := by
  have posQ : (0 : ℚ) < den := by exact_mod_cast pos
  have parts : (den : ℚ) * (num / den : Nat) + (num % den : Nat) = num := by
    exact_mod_cast Nat.div_add_mod num den
  have rest : ((num % den : Nat) : ℚ) / den < 1 := by
    rw [div_lt_one posQ]
    exact_mod_cast Nat.mod_lt num pos
  have ratio : (num : ℚ) / den = (num / den : Nat) + (num % den : Nat) / den := by
    rw [← parts]
    field_simp
  rw [ratio] at half
  unfold divHalfEven at half ⊢
  dsimp only at half ⊢
  split at half
  · rename_i low
    have lowQ : 2 * ((num % den : Nat) : ℚ) < den := by exact_mod_cast low
    have part : ((num % den : Nat) : ℚ) / den < 1 / 2 := by
      rw [div_lt_iff₀ posQ]
      linarith
    rw [sub_add_cancel_left, abs_neg, abs_of_nonneg (by positivity)] at half
    exact absurd half (ne_of_lt part)
  · split at half
    · rename_i high
      have highQ : (den : ℚ) < 2 * (num % den : Nat) := by exact_mod_cast high
      have part : 1 / 2 < ((num % den : Nat) : ℚ) / den := by
        rw [lt_div_iff₀ posQ]
        linarith
      rw [Nat.cast_succ, add_sub_add_left_eq_sub, abs_of_pos (by linarith)] at half
      linarith
    · rename_i notLow notHigh
      rw [if_neg notLow, if_neg notHigh]
      omega

/-- A quotient is rounded to one of the two whole numbers around it, to the even one from their
middle. -/
theorem divHalfEven_spec (num : Nat) (pos : 0 < den) :
    ∃ below : Nat, (below : ℚ) ≤ num / den ∧ (num : ℚ) / den < below + 1 ∧
      (divHalfEven num den = below ∨ divHalfEven num den = below + 1) ∧
      |(divHalfEven num den : ℚ) - num / den| ≤ 1 / 2 ∧
      (|(divHalfEven num den : ℚ) - num / den| = 1 / 2 → divHalfEven num den % 2 = 0) := by
  obtain ⟨least, most⟩ := cast_div_bounds num pos
  exact ⟨num / den, least, most, divHalfEven_neighbour num den, abs_divHalfEven_sub_le num pos,
    divHalfEven_even pos⟩

theorem near_of_neighbours {below t u : ℚ} {n : ℚ} (least : below ≤ t) (most : t < below + 1)
    (isNeighbour : n = below ∨ n = below + 1) (error : |n - t| ≤ 1 / 2)
    (outside : u ≤ below ∨ below + 1 ≤ u) :
    |n - t| ≤ |u - t| ∧ (|u - t| = |n - t| → u = n ∨ |n - t| = 1 / 2) := by
  obtain before | behind := outside
  · rw [abs_of_nonpos (show u - t ≤ 0 by linarith)]
    obtain rfl | rfl := isNeighbour
    · rw [abs_of_nonpos (show n - t ≤ 0 by linarith)]
      exact ⟨by linarith, fun same => .inl (by linarith)⟩
    · rw [abs_of_nonneg (show 0 ≤ below + 1 - t by linarith)] at error ⊢
      exact ⟨by linarith, fun same => .inr (by linarith)⟩
  · rw [abs_of_nonneg (show 0 ≤ u - t by linarith)]
    obtain rfl | rfl := isNeighbour
    · rw [abs_of_nonpos (show n - t ≤ 0 by linarith)] at error ⊢
      exact ⟨by linarith, fun same => .inr (by linarith)⟩
    · rw [abs_of_nonneg (show 0 ≤ below + 1 - t by linarith)]
      exact ⟨by linarith, fun same => .inl (by linarith)⟩

/-- No double is nearer to a ratio than the one that the ratio is rounded to, and another one that
is as near has odd bits. -/
theorem units_near (pos : 0 < den) (finite : nearest units den < infinityBits)
    (rounded : x.magnitude = nearest units den) (y : Binary64) :
    |(x.units : ℚ) - units / den| ≤ |(y.units : ℚ) - units / den| ∧
      (|(y.units : ℚ) - units / den| = |(x.units : ℚ) - units / den| →
        y.magnitude ≠ x.magnitude → x.magnitude % 2 = 0) := by
  obtain ⟨s, least, most⟩ := exists_place pos units
  obtain ⟨below, low, high, isNeighbour, error, tie⟩ :=
    divHalfEven_spec units (Nat.mul_pos pos (Nat.two_pow_pos s))
  rw [nearest_eq pos least most] at rounded finite
  rw [ratio_at_place] at low high error tie
  generalize divHalfEven units (den * 2 ^ s) = k at rounded finite isNeighbour error tie
  rw [Nat.min_eq_left (Nat.le_of_lt ((min_lt_iff.mp finite).resolve_right (lt_irrefl _)))]
    at rounded
  have unit : (0 : ℚ) < 2 ^ s := by positivity
  -- In units of the place the ratio is `t` and lies between whole numbers of a double's size.
  have ratio : (units : ℚ) / den = units / den / 2 ^ s * 2 ^ s := by rw [div_mul_cancel₀ _ unit.ne']
  have few : below < 2 ^ 53 := by
    have bound := (ratio_lt_iff pos).mp most
    rw [ratio] at bound
    have bound := lt_of_le_of_lt low (lt_of_mul_lt_mul_right bound unit.le)
    exact_mod_cast bound
  have normal : s = 0 ∨ 2 ^ 52 ≤ below := by
    refine least.imp_right fun least => ?_
    have bound := (le_ratio_iff pos).mp least
    rw [ratio] at bound
    have bound := lt_of_le_of_lt (le_of_mul_le_mul_right bound unit) high
    have bound : 2 ^ 52 < below + 1 := by exact_mod_cast bound
    omega
  have own : (x.units : ℚ) = k * 2 ^ s := by
    rw [units_eq rounded (by omega) (by omega)]
    push_cast
    rfl
  have other : (y.units : ℚ) = y.units / 2 ^ s * 2 ^ s := by rw [div_mul_cancel₀ _ unit.ne']
  have outside : (y.units : ℚ) / 2 ^ s ≤ below ∨ (below : ℚ) + 1 ≤ y.units / 2 ^ s := by
    rw [div_le_iff₀ unit, le_div_iff₀ unit]
    exact_mod_cast units_le_or_le few normal y
  have isNeighbour : (k : ℚ) = below ∨ (k : ℚ) = below + 1 := by exact_mod_cast isNeighbour
  obtain ⟨nearer, equal⟩ := near_of_neighbours low high isNeighbour error outside
  rw [ratio, own, other, ← sub_mul, ← sub_mul, abs_mul, abs_mul, abs_of_pos unit]
  refine ⟨mul_le_mul_of_nonneg_right nearer unit.le, fun same different => ?_⟩
  obtain here | half := equal (mul_right_cancel₀ unit.ne' same)
  · rw [here, ← own] at other
    exact absurd (magnitude_eq_of_units (Nat.cast_injective other)) different
  · have even := tie half
    omega

/-- From the middle behind the greatest double on, everything is rounded to infinity. -/
theorem nearest_eq_infinityBits (pos : 0 < den)
    (above : ((2 : ℚ) ^ 53 - 1 / 2) * 2 ^ lastPlace ≤ (units : ℚ) / den) :
    nearest units den = infinityBits := by
  obtain ⟨s, least, most⟩ := exists_place pos units
  obtain ⟨below, low, high, isNeighbour, error, tie⟩ :=
    divHalfEven_spec units (Nat.mul_pos pos (Nat.two_pow_pos s))
  have bound := (ratio_lt_iff pos).mp most
  rw [nearest_eq pos least most]
  rw [ratio_at_place] at low high error tie
  generalize divHalfEven units (den * 2 ^ s) = k at isNeighbour error tie ⊢
  refine Nat.min_eq_right ?_
  rw [infinityBits_eq]
  have unit : (0 : ℚ) < 2 ^ s := by positivity
  have last : lastPlace = 2045 := rfl
  obtain before | rfl | behind := Nat.lt_trichotomy s lastPlace
  · exfalso
    have power : (2 : ℚ) ^ (s + 1) ≤ 2 ^ lastPlace := pow_le_pow_right₀ (by norm_num) before
    rw [pow_succ] at power
    nlinarith
  · -- In the last place the next whole number, `2 ^ 53`, is infinity, and the middle goes to it.
    rw [← le_div_iff₀ unit] at above
    have many : 2 ^ 53 ≤ k := by
      by_contra fewer
      have fewer : k + 1 ≤ 2 ^ 53 := by omega
      have fewerQ : (k : ℚ) + 1 ≤ 2 ^ 53 := by exact_mod_cast fewer
      have atMiddle : |(k : ℚ) - units / den / 2 ^ lastPlace| = 1 / 2 := by
        rw [abs_le] at error
        rw [abs_of_nonpos (by linarith)]
        linarith
      have even := tie atMiddle
      rw [abs_le] at error
      have manyQ : (2 : ℚ) ^ 53 ≤ k + 1 := by linarith
      have many : 2 ^ 53 ≤ k + 1 := by exact_mod_cast manyQ
      omega
    omega
  · have bound := (le_ratio_iff pos).mp (least.resolve_left (by omega))
    rw [← le_div_iff₀ unit] at bound
    have many : 2 ^ 52 < below + 1 := by exact_mod_cast lt_of_le_of_lt bound high
    omega

/-- A distance between exact values, counted in units. -/
theorem abs_units_sub (x : Binary64) (num den : Nat) :
    |(x.units : ℚ) / unitsOfOne - num / den| =
      |(x.units : ℚ) - (num * unitsOfOne : Nat) / den| / unitsOfOne := by
  have posQ : (0 : ℚ) < unitsOfOne := by exact_mod_cast unitsOfOne_pos
  have scaled : (num : ℚ) / den = (num * unitsOfOne : Nat) / den / unitsOfOne := by
    push_cast
    field_simp
  rw [scaled, ← sub_div, abs_div, abs_of_pos posQ]

/-- The exponents are variables here, so that nothing computes these powers. -/
theorem middle_in_units {units place half top last : Nat} (power : units = Nat.pow 2 place)
    (isTop : top = 54 + half) (isLast : last = 1 + half + place) :
    ((2 : ℚ) ^ top - 2 ^ half) * units = (2 ^ 53 - 1 / 2) * 2 ^ last := by
  have cast : (units : ℚ) = 2 ^ place := by
    rw [power]
    change ((2 ^ place : Nat) : ℚ) = 2 ^ place
    push_cast
    rfl
  rw [cast, isTop, isLast, pow_add, pow_add 2 (1 + half), pow_add 2 1]
  ring

theorem overflow_mul_unitsOfOne : overflow * unitsOfOne = (2 ^ 53 - 1 / 2) * 2 ^ lastPlace := by
  obtain ⟨place, isPlace, power⟩ : ∃ place, place = 1074 ∧ unitsOfOne = Nat.pow 2 place :=
    ⟨1074, rfl, by unfold unitsOfOne; rfl⟩
  have isTop : 1024 = 54 + 970 := rfl
  have isLast : lastPlace = 1 + 970 + place := by rw [isPlace]; rfl
  exact middle_in_units power isTop isLast

theorem two_pow_le_overflow : (2 : ℚ) ^ 64 ≤ overflow := by
  have one : (1 : ℚ) ≤ 2 := by norm_num
  have least : (2 : ℚ) ^ 64 ≤ 2 ^ 970 := pow_le_pow_right₀ one (by decide)
  have most : (2 : ℚ) ^ (970 + 1) ≤ 2 ^ 1024 := pow_le_pow_right₀ one (by decide)
  have between : ∀ a b c : ℚ, a ≤ b → b * 2 ≤ c → a ≤ c - b := by
    intro a b c ab bc
    linarith
  exact between _ _ _ least (pow_succ (2 : ℚ) 970 ▸ most)

theorem overflow_le_iff (num den : Nat) : overflow ≤ (num : ℚ) / den ↔
    ((2 : ℚ) ^ 53 - 1 / 2) * 2 ^ lastPlace ≤ (num * unitsOfOne : Nat) / den := by
  have posQ : (0 : ℚ) < unitsOfOne := by exact_mod_cast unitsOfOne_pos
  rw [← overflow_mul_unitsOfOne, Nat.cast_mul, mul_div_right_comm, mul_le_mul_iff_left₀ posQ]

theorem isNegative_ofRatio (negative : Bool) (num den : Nat) :
    (ofRatio negative num den).isNegative = negative :=
  isNegative_ofMagnitude negative (Nat.lt_of_le_of_lt (Nat.min_le_right _ _) (by decide))

theorem rounds_ofRatio (negative : Bool) (pos : 0 < den) (num : Nat) :
    Rounds negative (signed negative (num / den)) (ofRatio negative num den) := by
  have posQ : (0 : ℚ) < unitsOfOne := by exact_mod_cast unitsOfOne_pos
  have nonneg : (0 : ℚ) ≤ (num : ℚ) / den := by positivity
  have size : |signed negative ((num : ℚ) / den)| = num / den := by
    rw [abs_signed, abs_of_nonneg nonneg]
  have bits := magnitude_ofRatio negative num den
  have finite : (num : ℚ) / den < overflow → roundBits num den < infinityBits := by
    intro below
    rw [← not_le, overflow_le_iff, not_le] at below
    exact roundBits_lt_infinityBits pos below
  have value : (ofRatio negative num den).toRat =
      signed negative ((ofRatio negative num den).units / unitsOfOne) := by
    rw [toRat, isNegative_ofRatio]
  have nearer : ∀ y : Binary64, (num : ℚ) / den < overflow →
      |(ofRatio negative num den).toRat - signed negative (num / den)| ≤
          |(y.units : ℚ) / unitsOfOne - num / den| ∧
        (|(y.units : ℚ) / unitsOfOne - num / den| =
            |(ofRatio negative num den).toRat - signed negative (num / den)| →
          y.magnitude ≠ (ofRatio negative num den).magnitude →
            (ofRatio negative num den).magnitude % 2 = 0) := by
    intro y below
    have found := finite below
    rw [roundBits_eq] at bits found
    obtain ⟨near, even⟩ := units_near pos found bits y
    rw [value, abs_signed_sub_signed, abs_units_sub, abs_units_sub]
    refine ⟨div_le_div_of_nonneg_right near posQ.le, fun same => even ?_⟩
    rwa [div_left_inj' posQ.ne'] at same
  exact {
    sign := isNegative_ofRatio negative num den
    infinite := by
      intro above
      rw [size, overflow_le_iff] at above
      rw [bits, roundBits_eq, nearest_eq_infinityBits pos above]
    finite := by
      intro below
      rw [size] at below
      rw [isFinite_iff, bits]
      exact finite below
    near := by
      intro below y _
      rw [size] at below
      exact le_trans (nearer y below).1 (abs_sub_le_signed _ _ (units_div_nonneg y) nonneg)
    even := by
      intro below y _ different same
      rw [size] at below
      have apart : |(y.units : ℚ) / unitsOfOne - num / den| ≤
          |y.toRat - signed negative (num / den)| :=
        abs_sub_le_signed _ _ (units_div_nonneg y) nonneg
      obtain ⟨near, even⟩ := nearer y below
      exact even (le_antisymm (same ▸ apart) near) different }

theorem natCast_lt_overflow {n : Nat} (small : n < 2 ^ 64) : (n : ℚ) < overflow := by
  have smallQ : (n : ℚ) < 2 ^ 64 := by exact_mod_cast small
  exact lt_of_lt_of_le smallQ two_pow_le_overflow

theorem isFinite_ofRatio_one (negative : Bool) {n : Nat} (below : (n : ℚ) < overflow) :
    (ofRatio negative n 1).isFinite = true := by
  apply (rounds_ofRatio negative Nat.one_pos n).finite
  rw [abs_signed, Nat.cast_one, div_one, abs_of_nonneg (Nat.cast_nonneg n)]
  exact below

theorem isFinite_ofInt {i : Int} (small : i.natAbs < 2 ^ 64) : (ofInt i).isFinite = true :=
  isFinite_ofRatio_one _ (natCast_lt_overflow small)

theorem rounds_infinity (above : overflow ≤ |v|) : Rounds negative v (infinity negative) where
  sign := isNegative_ofMagnitude negative (by decide)
  infinite := fun _ => magnitude_ofMagnitude negative (by decide)
  finite := fun below => absurd above (not_le.mpr below)
  near := fun below => absurd above (not_le.mpr below)
  even := fun below => absurd above (not_le.mpr below)

theorem Rounds.isFinite_iff (rounds : Rounds negative v x) :
    x.isFinite = true ↔ |v| < overflow := by
  refine ⟨fun finite => ?_, rounds.finite⟩
  by_contra above
  rw [Binary64.isFinite_iff, rounds.infinite (not_lt.mp above)] at finite
  exact lt_irrefl _ finite

/-- What lies between two numbers that are equally near is nearer than they are. -/
theorem abs_sub_lt_of_between {a b c v : ℚ} (ab : a < b) (bc : b < c)
    (same : |a - v| = |c - v|) : |b - v| < |c - v| := by
  obtain equal | mirrored := abs_eq_abs.mp same
  · linarith
  · rw [abs_of_pos (show 0 < c - v by linarith), abs_lt]
    constructor <;> linarith

theorem signed_between {a b c v : ℚ} (negative : Bool) (ab : a < b) (bc : b < c)
    (same : |signed negative a - v| = |signed negative c - v|) :
    |signed negative b - v| < |signed negative c - v| := by
  cases negative
  · exact abs_sub_lt_of_between ab bc same
  · rw [← same]
    exact abs_sub_lt_of_between (neg_lt_neg bc) (neg_lt_neg ab) same.symm

/-- Of two correct roundings none is the greater one: both had even bits, and one between them would
be nearer. -/
theorem Rounds.not_less (first : Rounds negative v x) (second : Rounds negative v y) :
    ¬ x.magnitude < y.magnitude := by
  intro less
  by_cases below : |v| < overflow
  · have finite := first.finite below
    have finite' := second.finite below
    have same := le_antisymm (first.near below y finite') (second.near below x finite)
    have even := first.even below y finite' (Nat.ne_of_gt less) same.symm
    have even' := second.even below x finite (Nat.ne_of_lt less) same
    have bound := Binary64.isFinite_iff.mp finite'
    have top : infinityBits < 2 ^ 63 := by decide
    have small : x.magnitude + 1 < 2 ^ 63 := by omega
    have bits := magnitude_ofMagnitude negative small
    have above : x.units < (ofMagnitude negative (x.magnitude + 1)).units :=
      units_lt_units (by omega)
    have under : (ofMagnitude negative (x.magnitude + 1)).units < y.units :=
      units_lt_units (by omega)
    have posQ : (0 : ℚ) < unitsOfOne := by exact_mod_cast unitsOfOne_pos
    have aboveQ : (x.units : ℚ) / unitsOfOne <
        (ofMagnitude negative (x.magnitude + 1)).units / unitsOfOne :=
      div_lt_div_of_pos_right (by exact_mod_cast above) posQ
    have underQ : ((ofMagnitude negative (x.magnitude + 1)).units : ℚ) / unitsOfOne <
        y.units / unitsOfOne :=
      div_lt_div_of_pos_right (by exact_mod_cast under) posQ
    have nearest := second.near below (ofMagnitude negative (x.magnitude + 1))
      (Binary64.isFinite_iff.mpr (by omega))
    rw [toRat, toRat, first.sign, second.sign] at same
    rw [toRat, toRat, second.sign, isNegative_ofMagnitude negative small] at nearest
    exact absurd nearest (not_le.mpr (signed_between negative aboveQ underQ same))
  · rw [first.infinite (not_lt.mp below), second.infinite (not_lt.mp below)] at less
    exact lt_irrefl _ less

theorem Rounds.unique (first : Rounds negative v x) (second : Rounds negative v y) : x = y := by
  have below := Nat.not_lt.mp (second.not_less first)
  have above := Nat.not_lt.mp (first.not_less second)
  exact eq_of_parts (first.sign.trans second.sign.symm) (Nat.le_antisymm below above)

theorem Rounds.eq_infinity (rounds : Rounds negative v x) (above : overflow ≤ |v|) :
    x = infinity negative :=
  rounds.unique (rounds_infinity above)

end Geoflow.Binary64
