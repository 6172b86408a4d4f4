import Geoflow.Binary64.Shortest
import Geoflow.Proofs.Binary64.Rounding
import Geoflow.Proofs.Numeral
import Mathlib.Algebra.Order.Field.Power
import Mathlib.Data.List.TakeWhile

set_option autoImplicit false

namespace Geoflow.Binary64

variable {num den : Nat} {x : Binary64} {d : Digits} {tie : Tie}

theorem decimalOrder_of_le (pos : 0 < den) (large : den ≤ num) :
    (10 : ℚ) ^ (decimalOrder num den - 1) ≤ (num : ℚ) / den ∧
      (num : ℚ) / den < 10 ^ decimalOrder num den := by
  have some : 0 < num / den := Nat.div_pos large pos
  obtain ⟨places, count⟩ := Nat.exists_eq_add_one_of_ne_zero
    (Nat.ne_of_gt (Numeral.length_digits_pos (num / den)))
  have least := Numeral.pow_length_digits_le some
  have most := Numeral.lt_pow_length_digits (num / den)
  rw [count] at least most
  obtain ⟨below, above⟩ := cast_div_bounds num pos
  rw [decimalOrder, if_pos large, count, Nat.cast_succ, Int.add_sub_cancel]
  constructor
  · rw [zpow_natCast]
    exact le_trans (by exact_mod_cast least) below
  · rw [← Nat.cast_succ, zpow_natCast]
    exact lt_of_lt_of_le above (by exact_mod_cast most)

theorem decimalOrder_of_lt (some : 0 < num) (small : num < den) :
    (10 : ℚ) ^ (decimalOrder num den - 1) ≤ (num : ℚ) / den ∧
      (num : ℚ) / den < 10 ^ decimalOrder num den := by
  have pos : 0 < den := Nat.lt_trans some small
  have posQ : (0 : ℚ) < den := by exact_mod_cast pos
  obtain ⟨zeros, count⟩ := Nat.exists_eq_add_one_of_ne_zero
    (Nat.ne_of_gt (Numeral.length_digits_pos (den / num)))
  have least := Numeral.pow_length_digits_le (Nat.div_pos (Nat.le_of_lt small) some)
  have most := Numeral.lt_pow_length_digits (den / num)
  rw [count, Nat.add_sub_cancel, Nat.le_div_iff_mul_le some] at least
  rw [count, Nat.div_lt_iff_lt_mul some] at most
  rw [decimalOrder, if_neg (Nat.not_le.mpr small), count, Nat.add_sub_cancel]
  have lower : (10 : ℚ) ^ (-(zeros : Int) - 1) < num / den := by
    rw [← neg_add', ← Nat.cast_succ, zpow_neg, zpow_natCast, lt_div_iff₀ posQ,
      inv_mul_lt_iff₀ (by positivity)]
    exact_mod_cast most
  have upper : (num : ℚ) / den ≤ 10 ^ (-(zeros : Int)) := by
    rw [zpow_neg, zpow_natCast, div_le_iff₀ posQ, le_inv_mul_iff₀ (by positivity)]
    exact_mod_cast least
  have onGrid : num * Nat.pow 10 zeros = den ↔ (num : ℚ) / den = 10 ^ (-(zeros : Int)) := by
    rw [zpow_neg, zpow_natCast, div_eq_iff posQ.ne', eq_inv_mul_iff_mul_eq₀ (by positivity),
      mul_comm]
    exact_mod_cast Iff.rfl
  dsimp only
  split
  · rename_i power
    rw [onGrid.mp power]
    exact ⟨le_of_eq (by congr 1; omega), zpow_lt_zpow_right₀ (by norm_num) (by omega)⟩
  · rename_i inexact
    exact ⟨le_of_lt lower, lt_of_le_of_ne upper fun same => inexact (onGrid.mpr same)⟩

theorem decimalOrder_bounds (some : 0 < num) (pos : 0 < den) :
    (10 : ℚ) ^ (decimalOrder num den - 1) ≤ (num : ℚ) / den ∧
      (num : ℚ) / den < 10 ^ decimalOrder num den := by
  obtain small | large := Nat.lt_or_ge num den
  · exact decimalOrder_of_lt some small
  · exact decimalOrder_of_le pos large

def Digits.value (d : Digits) : ℚ := d.digits * 10 ^ d.exponent

def Digits.order (d : Digits) : Int := (Numeral.digits d.digits).length + d.exponent

theorem ten_zpow (exponent : Int) :
    (10 : ℚ) ^ exponent = 10 ^ exponent.toNat / 10 ^ (-exponent).toNat := by
  rw [← zpow_natCast, ← zpow_natCast, ← zpow_sub₀ (by norm_num)]
  congr 1
  omega

theorem ratio_on_grid (num den : Nat) (exponent : Int) :
    ((num * 10 ^ (-exponent).toNat : Nat) : ℚ) / (den * 10 ^ exponent.toNat : Nat) =
      num / den / 10 ^ exponent := by
  rw [ten_zpow]
  push_cast
  field_simp

/-- The neighbours of a ratio are the points of the grid below and above it, the nearer one first;
from the middle on it is the upper one where ties go up. -/
theorem neighbours_cases (pos : 0 < den) (tie : Tie) (num : Nat) (exponent : Int) :
    ∃ below : Nat, (below : ℚ) ≤ num / den / 10 ^ exponent ∧
      (num : ℚ) / den / 10 ^ exponent < below + 1 ∧
      (neighbours tie num den exponent = [⟨below, exponent⟩, ⟨below + 1, exponent⟩] ∧
          (num : ℚ) / den / 10 ^ exponent ≤ below + 1 / 2 ∧
          (tie = .up → (num : ℚ) / den / 10 ^ exponent < below + 1 / 2) ∨
        neighbours tie num den exponent = [⟨below + 1, exponent⟩, ⟨below, exponent⟩] ∧
          (below : ℚ) + 1 / 2 ≤ num / den / 10 ^ exponent) := by
  have posGrid : 0 < den * 10 ^ exponent.toNat := Nat.mul_pos pos (Nat.pow_pos (by decide))
  have posQ : (0 : ℚ) < (den * 10 ^ exponent.toNat : Nat) := by exact_mod_cast posGrid
  obtain ⟨least, most⟩ := cast_div_bounds (num * 10 ^ (-exponent).toNat) posGrid
  have parts := Nat.div_add_mod (num * 10 ^ (-exponent).toNat) (den * 10 ^ exponent.toNat)
  have onGrid := ratio_on_grid num den exponent
  have unfolded : neighbours tie num den exponent =
      let n := num * 10 ^ (-exponent).toNat
      let d := den * 10 ^ exponent.toNat
      let below := n / d
      let twice := 2 * (n % d)
      let upFirst := d < twice || (twice == d && (tie == .up || below % 2 == 1))
      if upFirst then [⟨below + 1, exponent⟩, ⟨below, exponent⟩]
      else [⟨below, exponent⟩, ⟨below + 1, exponent⟩] := rfl
  rw [unfolded, ← onGrid]
  clear unfolded onGrid
  dsimp only
  generalize num * 10 ^ (-exponent).toNat = n at least most parts ⊢
  generalize den * 10 ^ exponent.toNat = grid at posGrid posQ least most parts ⊢
  generalize n / grid = below at least most parts ⊢
  generalize n % grid = rest at parts ⊢
  have partsQ : (grid : ℚ) * below + rest = n := by exact_mod_cast parts
  refine ⟨below, least, most, ?_⟩
  split
  · rename_i upFirst
    have high : grid ≤ 2 * rest := by
      simp only [Bool.or_eq_true, Bool.and_eq_true, decide_eq_true_eq, beq_iff_eq] at upFirst
      omega
    have highQ : (grid : ℚ) ≤ 2 * rest := by exact_mod_cast high
    refine .inr ⟨rfl, ?_⟩
    rw [le_div_iff₀ posQ]
    linarith
  · rename_i downFirst
    simp only [Bool.or_eq_true, Bool.and_eq_true, decide_eq_true_eq, beq_iff_eq,
      not_or, not_and] at downFirst
    have lowQ : 2 * (rest : ℚ) ≤ grid := by exact_mod_cast (show 2 * rest ≤ grid by omega)
    refine .inl ⟨rfl, ?_, fun up => ?_⟩
    · rw [div_le_iff₀ posQ]
      linarith
    · have apart : 2 * rest ≠ grid := fun half => (downFirst.2 half).1 up
      have lowQ : 2 * (rest : ℚ) < grid := by exact_mod_cast (show 2 * rest < grid by omega)
      rw [div_lt_iff₀ posQ]
      linarith

/-- Both neighbours of a ratio are next to it on their grid, and the first one is the nearer. -/
theorem neighbours_spec (pos : 0 < den) (tie : Tie) (num : Nat) (exponent : Int) :
    ∃ near far below : Nat,
      neighbours tie num den exponent = [⟨near, exponent⟩, ⟨far, exponent⟩] ∧
      (below : ℚ) ≤ num / den / 10 ^ exponent ∧ (num : ℚ) / den / 10 ^ exponent < below + 1 ∧
      (near = below ∨ near = below + 1) ∧ (far = below ∨ far = below + 1) ∧
      |(near : ℚ) - num / den / 10 ^ exponent| ≤ 1 / 2 := by
  obtain ⟨below, least, most, ⟨both, low, -⟩ | ⟨both, high⟩⟩ :=
    neighbours_cases pos tie num exponent
  · refine ⟨below, below + 1, below, both, least, most, .inl rfl, .inr rfl, ?_⟩
    rw [abs_le]
    constructor <;> linarith
  · refine ⟨below + 1, below, below, both, least, most, .inr rfl, .inl rfl, ?_⟩
    rw [abs_le]
    push_cast
    constructor <;> linarith

theorem toBinary64_cases (negative : Bool) (d : Digits) :
    Decimal.toBinary64 ⟨negative, d.digits, d.exponent⟩ =
      if d.digits = 0 then .zero negative
      else if 310 < d.order then .infinity negative
      else if d.order < -330 then .zero negative
      else if 0 ≤ d.exponent then ofRatio negative (d.digits * 10 ^ d.exponent.toNat) 1
      else ofRatio negative d.digits (10 ^ (-d.exponent).toNat) := rfl

theorem toBinary64_eq (negative : Bool) (some : d.digits ≠ 0) (least : -330 ≤ d.order)
    (most : d.order ≤ 310) :
    ∃ num den : Nat, 0 < den ∧ (num : ℚ) / den = d.value ∧
      Decimal.toBinary64 ⟨negative, d.digits, d.exponent⟩ = ofRatio negative num den := by
  rw [toBinary64_cases, if_neg some, if_neg (Int.not_lt.mpr most), if_neg (Int.not_lt.mpr least)]
  split
  · rename_i whole
    refine ⟨d.digits * 10 ^ d.exponent.toNat, 1, Nat.one_pos, ?_, rfl⟩
    have none : (-d.exponent).toNat = 0 := by omega
    rw [Digits.value, ten_zpow, none]
    push_cast
    rw [pow_zero, div_one, div_one]
  · rename_i broken
    refine ⟨d.digits, 10 ^ (-d.exponent).toNat, Nat.pow_pos (by decide), ?_, rfl⟩
    have none : d.exponent.toNat = 0 := by omega
    rw [Digits.value, ten_zpow, none]
    push_cast
    rw [pow_zero, mul_one_div]

theorem readsBack_iff : d.readsBack x = true ↔
    (Decimal.toBinary64 ⟨false, d.digits, d.exponent⟩).magnitude = x.magnitude := beq_iff_eq

/-- What is nearer to a double than `2 ^ -54` of it reads back as it. -/
theorem readsBack_of_near (finite : x.isFinite = true) (nonzero : x.magnitude ≠ 0)
    (some : d.digits ≠ 0) (least : -330 ≤ d.order) (most : d.order ≤ 310)
    (near : |(x.units : ℚ) - d.value * unitsOfOne| < x.units / 2 ^ 54) : d.readsBack x = true := by
  obtain ⟨num, den, pos, ratio, read⟩ := toBinary64_eq false some least most
  rw [readsBack_iff, read, magnitude_ofRatio]
  refine roundBits_of_near pos finite nonzero ?_
  rwa [Nat.cast_mul, mul_div_right_comm, ratio]

/-- A grid point that reads back as a double other than zero is a ratio that rounds to it. -/
theorem exists_ratio_of_readsBack (finite : x.isFinite = true) (nonzero : x.magnitude ≠ 0)
    (reads : d.readsBack x = true) :
    d.order ≤ 310 ∧
      ∃ num den : Nat, 0 < den ∧ (num : ℚ) / den = d.value ∧ roundBits num den = x.magnitude := by
  rw [readsBack_iff] at reads
  have zero : ∀ negative, (Binary64.zero negative).magnitude = 0 := by decide
  have infinite : ∀ negative, (Binary64.infinity negative).magnitude = infinityBits := by decide
  have finite := isFinite_iff.mp finite
  by_cases some : d.digits = 0
  · rw [toBinary64_cases, if_pos some, zero] at reads
    exact absurd reads.symm nonzero
  by_cases most : 310 < d.order
  · rw [toBinary64_cases, if_neg some, if_pos most, infinite] at reads
    exact absurd reads (Nat.ne_of_gt finite)
  by_cases least : d.order < -330
  · rw [toBinary64_cases, if_neg some, if_neg most, if_pos least, zero] at reads
    exact absurd reads.symm nonzero
  obtain ⟨num, den, pos, ratio, read⟩ :=
    toBinary64_eq false some (Int.not_lt.mp least) (Int.not_lt.mp most)
  rw [read, magnitude_ofRatio] at reads
  exact ⟨Int.not_lt.mp most, num, den, pos, ratio, reads⟩

/-- If one of the grids has a neighbour that reads back, the search ends at the first such grid and
takes the nearer of the neighbours there that read back. -/
theorem firstHit_least {order : Int} {counts : List Nat} (ascending : counts.Pairwise (· < ·))
    (hit : ∃ count ∈ counts, ∃ d ∈ neighbours tie num den (order - count), d.readsBack x = true) :
    ∃ count ∈ counts,
      (neighbours tie num den (order - count)).find? (·.readsBack x) =
        some (firstHit tie x num den order counts) ∧
      ∀ fewer ∈ counts, fewer < count → ∀ d ∈ neighbours tie num den (order - fewer),
        d.readsBack x ≠ true := by
  induction counts with
  | nil =>
    obtain ⟨_, none, _⟩ := hit
    exact absurd none List.not_mem_nil
  | cons count counts ih =>
    obtain ⟨before, ascending⟩ := List.pairwise_cons.mp ascending
    rw [firstHit]
    split
    · rename_i found
      refine ⟨count, List.mem_cons_self, found, fun fewer mem less => ?_⟩
      obtain rfl | later := List.mem_cons.mp mem
      · exact absurd less (Nat.lt_irrefl _)
      · exact absurd less (Nat.lt_asymm (before fewer later))
    · rename_i missed
      have missed := List.find?_eq_none.mp missed
      have later : ∃ count ∈ counts, ∃ d ∈ neighbours tie num den (order - count),
          d.readsBack x = true := by
        obtain ⟨other, mem, d, isNeighbour, reads⟩ := hit
        obtain rfl | mem := List.mem_cons.mp mem
        · exact absurd reads (missed d isNeighbour)
        · exact ⟨other, mem, d, isNeighbour, reads⟩
      obtain ⟨other, mem, found, least⟩ := ih ascending later
      refine ⟨other, List.mem_cons_of_mem count mem, found, fun fewer among less => ?_⟩
      obtain rfl | among := List.mem_cons.mp among
      · exact missed
      · exact least fewer among less

theorem decimalOrder_le {places : Nat} (some : 0 < num) (pos : 0 < den)
    (below : num < 10 ^ places * den) : decimalOrder num den ≤ places := by
  have posQ : (0 : ℚ) < den := by exact_mod_cast pos
  have least := (decimalOrder_bounds some pos).1
  have below : (num : ℚ) / den < 10 ^ (places : Int) := by
    rw [div_lt_iff₀ posQ, zpow_natCast]
    exact_mod_cast below
  have before := (zpow_lt_zpow_iff_right₀ (by norm_num)).mp (lt_of_le_of_lt least below)
  omega

theorem lt_decimalOrder {places : Nat} (some : 0 < num) (pos : 0 < den)
    (above : den ≤ 10 ^ places) :
    -(places : Int) < decimalOrder num den := by
  have posQ : (0 : ℚ) < den := by exact_mod_cast pos
  have most := (decimalOrder_bounds some pos).2
  have above : (10 : ℚ) ^ (-(places : Int)) ≤ num / den := by
    rw [zpow_neg, zpow_natCast, le_div_iff₀ posQ, inv_mul_le_iff₀ (by positivity)]
    have more : den ≤ 10 ^ places * num :=
      Nat.le_trans above (Nat.le_mul_of_pos_right _ some)
    exact_mod_cast more
  exact (zpow_lt_zpow_iff_right₀ (by norm_num)).mp (lt_of_le_of_lt above most)

theorem units_pos (nonzero : x.magnitude ≠ 0) : 0 < x.units := by
  obtain ⟨s, k, parts, most, normal⟩ := exists_parts x
  rw [units_eq parts (Nat.le_of_lt most) normal]
  exact Nat.mul_pos (by omega) (Nat.two_pow_pos s)

/-- Half a step of a grid is little of what is `10 ^ 16` steps large. -/
theorem near_of_close {t g c near : ℚ} (large : 10 ^ 16 ≤ t) (error : |near - t| ≤ 1 / 2)
    (scale : 0 < g * c) : |t * g * c - near * g * c| < t * g * c / 2 ^ 54 := by
  rw [abs_le] at error
  rw [mul_assoc, mul_assoc, abs_lt]
  constructor <;> nlinarith

theorem decimalOrder_units (finite : x.isFinite = true) (nonzero : x.magnitude ≠ 0) :
    -(324 : Nat) < decimalOrder x.units unitsOfOne ∧
      decimalOrder x.units unitsOfOne ≤ (mostPlaces : Nat) := by
  have some := units_pos nonzero
  have below := units_add_le (isFinite_iff.mp finite) Nat.one_pos (by decide)
  rw [Nat.one_mul] at below
  have below := Nat.lt_of_lt_of_le (Nat.lt_add_of_pos_right (Nat.two_pow_pos lastPlace)) below
  exact ⟨lt_decimalOrder some unitsOfOne_pos unitsOfOne_bounds.2.1,
    decimalOrder_le some unitsOfOne_pos (Nat.lt_of_lt_of_le below last_le)⟩

theorem pow_on_grid {order grid : Int} {places : Nat} (above : order = places + grid) :
    (10 : ℚ) ^ order = 10 ^ places * 10 ^ grid := by
  rw [above, zpow_add₀ (by norm_num), zpow_natCast]

theorem exists_readsBack (finite : x.isFinite = true) (nonzero : x.magnitude ≠ 0) (tie : Tie) :
    ∃ d ∈ neighbours tie x.units unitsOfOne (decimalOrder x.units unitsOfOne - (17 : Nat)),
      d.readsBack x = true := by
  have pos := unitsOfOne_pos
  have posQ : (0 : ℚ) < unitsOfOne := by exact_mod_cast pos
  obtain ⟨least, most⟩ := decimalOrder_units finite nonzero
  obtain ⟨lower, upper⟩ := decimalOrder_bounds (units_pos nonzero) pos
  rw [mostPlaces] at most
  generalize decimalOrder x.units unitsOfOne = order at least most lower upper ⊢
  have grid : (0 : ℚ) < 10 ^ (order - (17 : Nat)) := by positivity
  have lowerPlaces : order - 1 = (16 : Nat) + (order - (17 : Nat)) := by omega
  have upperPlaces : order = (17 : Nat) + (order - (17 : Nat)) := by omega
  rw [pow_on_grid lowerPlaces, ← le_div_iff₀ grid] at lower
  rw [pow_on_grid upperPlaces, ← div_lt_iff₀ grid] at upper
  obtain ⟨near, far, below, both, -, -, -, -, error⟩ :=
    neighbours_spec pos tie x.units (order - (17 : Nat))
  rw [both]
  refine ⟨_, List.mem_cons_self, ?_⟩
  rw [abs_le] at error
  have few : near < 10 ^ 18 := by
    have : (near : ℚ) < 10 ^ 18 := by linarith
    exact_mod_cast this
  have many : 10 ^ 16 ≤ near := by
    have : (10 : ℚ) ^ 16 < near + 1 := by linarith
    have : 10 ^ 16 < near + 1 := by exact_mod_cast this
    omega
  have short := (Numeral.length_digits_le_iff (by decide)).mpr few
  have long : ¬ (Numeral.digits near).length ≤ 16 := by
    rw [Numeral.length_digits_le_iff (by decide)]
    omega
  refine readsBack_of_near finite nonzero (by dsimp only; omega) ?_ ?_ ?_
  · rw [Digits.order]
    dsimp only
    omega
  · rw [Digits.order]
    dsimp only
    omega
  · have whole : (x.units : ℚ) = x.units / unitsOfOne / 10 ^ (order - (17 : Nat)) *
        10 ^ (order - (17 : Nat)) * unitsOfOne := by
      rw [div_mul_cancel₀ _ grid.ne', div_mul_cancel₀ _ posQ.ne']
    rw [Digits.value, whole]
    dsimp only
    generalize (x.units : ℚ) / unitsOfOne / 10 ^ (order - (17 : Nat)) = t at lower upper error ⊢
    exact near_of_close lower (abs_le.mpr error) (mul_pos grid posQ)

/-- The points next to a ratio on the grid of so many digits have so many digits, or are the power
of ten behind them. -/
theorem digits_of_mem_neighbours (some : 0 < num) (pos : 0 < den) {count : Nat}
    (counted : 0 < count) (mem : d ∈ neighbours tie num den (decimalOrder num den - count)) :
    0 < d.digits ∧ d.digits ≤ 10 ^ count := by
  obtain ⟨lower, upper⟩ := decimalOrder_bounds some pos
  generalize decimalOrder num den = order at lower upper mem
  have grid : (0 : ℚ) < 10 ^ (order - count) := by positivity
  have lower : 1 ≤ (num : ℚ) / den / 10 ^ (order - count) := by
    rw [le_div_iff₀ grid, one_mul]
    exact le_trans (zpow_le_zpow_right₀ (by norm_num) (by omega)) lower
  have upper : (num : ℚ) / den / 10 ^ (order - count) < 10 ^ count := by
    have places : order = count + (order - count) := by omega
    rwa [div_lt_iff₀ grid, ← pow_on_grid places]
  obtain ⟨near, far, below, both, least, most, isNear, isFar, -⟩ :=
    neighbours_spec pos tie num (order - count)
  have some : 0 < below := by
    have : (0 : ℚ) < below := by linarith
    exact_mod_cast this
  have few : below < 10 ^ count := by
    have : (below : ℚ) < 10 ^ count := lt_of_le_of_lt least upper
    exact_mod_cast this
  rw [both] at mem
  obtain rfl | mem := List.mem_cons.mp mem
  · dsimp only
    omega
  · rw [List.mem_singleton] at mem
    subst mem
    dsimp only
    omega

/-- The shortest digits of a double are found on the first grid with a neighbour that reads back,
that of seventeen digits at the latest. -/
theorem shortest_least (tie : Tie) (finite : x.isFinite = true) (nonzero : x.magnitude ≠ 0) :
    ∃ count : Nat, 0 < count ∧ count ≤ 17 ∧
      (neighbours tie x.units unitsOfOne (decimalOrder x.units unitsOfOne - count)).find?
        (·.readsBack x) = some (shortest tie x) ∧
      ∀ fewer : Nat, 0 < fewer → fewer < count →
        ∀ d ∈ neighbours tie x.units unitsOfOne (decimalOrder x.units unitsOfOne - fewer),
          d.readsBack x ≠ true := by
  have search : shortest tie x = firstHit tie x x.units unitsOfOne
      (decimalOrder x.units unitsOfOne) ((List.range 17).map (· + 1)) := by
    unfold shortest unitsOfOne
    rfl
  have counts : ∀ count, count ∈ (List.range 17).map (· + 1) ↔ 0 < count ∧ count ≤ 17 := by
    intro count
    simp only [List.mem_map, List.mem_range]
    exact ⟨by rintro ⟨n, small, rfl⟩; omega, fun bounds => ⟨count - 1, by omega, by omega⟩⟩
  obtain ⟨count, mem, found, least⟩ := firstHit_least (by decide)
    ⟨17, (counts 17).mpr (by decide), exists_readsBack finite nonzero tie⟩
  obtain ⟨counted, bounded⟩ := (counts count).mp mem
  rw [search]
  exact ⟨count, counted, bounded, found, fun fewer some less =>
    least fewer ((counts fewer).mpr ⟨some, by omega⟩) less⟩

theorem shortest_spec (tie : Tie) (finite : x.isFinite = true) (nonzero : x.magnitude ≠ 0) :
    (shortest tie x).readsBack x = true ∧ 0 < (shortest tie x).digits ∧
      (shortest tie x).digits ≤ 10 ^ 17 := by
  obtain ⟨count, counted, bounded, found, -⟩ := shortest_least tie finite nonzero
  obtain ⟨some, few⟩ := digits_of_mem_neighbours (units_pos nonzero) unitsOfOne_pos counted
    (List.mem_of_find?_eq_some found)
  have reads := List.find?_some found
  exact ⟨reads, some, Nat.le_trans few (Nat.pow_le_pow_right (by decide) bounded)⟩

theorem firstHit_congr {y : Binary64} (same : x.magnitude = y.magnitude) (order : Int)
    (counts : List Nat) :
    firstHit tie x num den order counts = firstHit tie y num den order counts := by
  induction counts with
  | nil => rfl
  | cons count counts ih => simp only [firstHit, Digits.readsBack, same, ih]

/-- The digits do not depend on the sign. -/
theorem placed_congr {y : Binary64} (same : x.magnitude = y.magnitude) :
    placed tie x = placed tie y := by
  rw [placed, placed, isZero, isZero, shortest, shortest, same, units_congr same,
    firstHit_congr same]

/-- The digits that are placed are the shortest ones without the zeros at their end. -/
theorem placed_of_nonzero (nonzero : x.magnitude ≠ 0) :
    placed tie x = (((Numeral.digits (shortest tie x).digits).reverse.dropWhile
      (· == '0')).reverse, (shortest tie x).order) := by
  have isZero : ¬ x.isZero = true := fun zero => nonzero (beq_iff_eq.mp zero)
  rw [placed, if_neg isZero]
  rfl

/-- The digits of a double that is not zero start with another one than zero, and they are its
shortest digits with trailing zeros left out. -/
theorem placed_spec (tie : Tie) (finite : x.isFinite = true) (nonzero : x.magnitude ≠ 0) :
    ∃ (lead : Char) (tail : List Char) (zeros : Nat),
      placed tie x = (lead :: tail, (shortest tie x).order) ∧ lead ≠ '0' ∧
      (∀ c ∈ lead :: tail, Numeral.isDigit c = true) ∧
      (shortest tie x).digits = Numeral.value (lead :: tail) * 10 ^ zeros ∧
      (shortest tie x).order = (lead :: tail).length + zeros + (shortest tie x).exponent := by
  obtain ⟨-, some, -⟩ := shortest_spec tie finite nonzero
  rw [placed_of_nonzero nonzero, Digits.order]
  generalize (shortest tie x).digits = n at some ⊢
  have digits : ∀ c ∈ Numeral.digits n, Numeral.isDigit c = true :=
    fun c mem => Numeral.isDigit_of_mem_digits mem
  obtain ⟨zeros, trimmed⟩ := Numeral.exists_trailing (Numeral.digits n)
  have value := Numeral.value_digits n
  obtain ⟨first, more, leads, alone⟩ := Numeral.digits_leads n
  generalize ((Numeral.digits n).reverse.dropWhile (· == '0')).reverse = ds at trimmed ⊢
  rw [trimmed] at digits value leads
  rw [Numeral.value_append, Numeral.value_zeros, Nat.add_zero, List.length_replicate] at value
  cases ds with
  | nil => exact absurd value (by rw [show Numeral.value [] = 0 from rfl]; omega)
  | cons lead tail =>
    refine ⟨lead, tail, zeros, rfl, ?_, fun c mem => digits c (List.mem_append_left _ mem),
      value.symm, ?_⟩
    · rintro rfl
      obtain ⟨rfl, rfl⟩ := List.cons.inj leads
      obtain ⟨rfl, -⟩ := List.append_eq_nil_iff.mp (alone rfl)
      exact absurd value (by rw [show Numeral.value ['0'] = 0 from rfl]; omega)
    · rw [trimmed, List.length_append, List.length_replicate]
      push_cast
      rfl

end Geoflow.Binary64
