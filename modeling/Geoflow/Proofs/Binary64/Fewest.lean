import Geoflow.Proofs.Binary64.Literal

set_option autoImplicit false

namespace Geoflow.Binary64

variable {x : Binary64} {d o : Digits} {tie : Tie} {negative : Bool} {v w : ℚ} {n m k : Nat}

theorem abs_toRat (x : Binary64) : |x.toRat| = x.units / unitsOfOne := by
  rw [toRat, abs_signed, abs_of_nonneg (units_div_nonneg x)]

theorem toRat_of_positive (positive : x.isNegative = false) :
    x.toRat = x.units / unitsOfOne := by
  rw [toRat, positive]
  rfl

theorem abs_toRat_lt_overflow (finite : x.isFinite = true) : |x.toRat| < overflow := by
  have posQ : (0 : ℚ) < unitsOfOne := by exact_mod_cast unitsOfOne_pos
  have unit : (0 : ℚ) < 2 ^ lastPlace := by positivity
  have below := units_add_le (isFinite_iff.mp finite) Nat.one_pos (by decide)
  have belowQ : (x.units : ℚ) + 1 * 2 ^ lastPlace ≤ 2 ^ 53 * 2 ^ lastPlace := by
    exact_mod_cast below
  rw [abs_toRat, div_lt_iff₀ posQ, overflow_mul_unitsOfOne]
  linarith

/-- What is nearest to `v` is nearest to whatever lies between itself and `v`. -/
theorem near_of_between {a b : ℚ} (inside : a ≤ w ∧ w ≤ v ∨ v ≤ w ∧ w ≤ a)
    (near : |a - v| ≤ |b - v|) :
    |a - w| ≤ |b - w| ∧ (|b - w| = |a - w| → b = a ∨ |b - v| = |a - v|) := by
  have own := abs_cases (a - w)
  have other := abs_cases (b - w)
  have ownFar := abs_cases (a - v)
  have otherFar := abs_cases (b - v)
  grind

/-- What lies between a double and a value that rounds to it rounds to it as well. -/
theorem Rounds.between (rounds : Rounds negative v x) (finite : x.isFinite = true)
    (inside : x.toRat ≤ w ∧ w ≤ v ∨ v ≤ w ∧ w ≤ x.toRat) : Rounds negative w x := by
  have below : |v| < overflow := rounds.isFinite_iff.mp finite
  have within : |w| < overflow := by
    have own := abs_toRat_lt_overflow finite
    rw [abs_lt] at below own ⊢
    obtain ⟨low, high⟩ | ⟨low, high⟩ := inside <;> constructor <;> linarith
  exact {
    sign := rounds.sign
    infinite := fun above => absurd within (not_lt.mpr above)
    finite := fun _ => finite
    near := fun _ y isFinite => (near_of_between inside (rounds.near below y isFinite)).1
    even := by
      intro _ y isFinite different same
      obtain equal | tie := (near_of_between inside (rounds.near below y isFinite)).2 same
      · have posQ : (unitsOfOne : ℚ) ≠ 0 := by exact_mod_cast unitsOfOne_pos.ne'
        have sizes := congrArg abs equal
        rw [abs_toRat, abs_toRat, div_left_inj' posQ] at sizes
        exact absurd (magnitude_eq_of_units (Nat.cast_injective sizes)) different
      · exact rounds.even below y isFinite different tie }

theorem readsBack_iff_rounds (positive : x.isNegative = false) :
    d.readsBack x = true ↔ Rounds false d.value x := by
  have rounds : Rounds false d.value (Decimal.toBinary64 ⟨false, d.digits, d.exponent⟩) :=
    rounds_toBinary64 false d
  rw [readsBack_iff]
  constructor
  · intro same
    rwa [← eq_of_parts (rounds.sign.trans positive.symm) same]
  · intro other
    rw [rounds.unique other]

/-- A decimal of so many digits is on the grid of so many digits or below all its points, so it is
not strictly between neighbours there. -/
theorem value_le_or_le {order : Int} {ratio : ℚ} {below : Nat} (some : 0 < k)
    (few : o.digits < 10 ^ k) (least : 10 ^ (order - 1) ≤ ratio)
    (most : ratio / 10 ^ (order - k) < below + 1) :
    o.value ≤ below * 10 ^ (order - k) ∨ (below + 1) * 10 ^ (order - k) ≤ o.value := by
  have grid : (0 : ℚ) < 10 ^ (order - k) := by positivity
  rw [Digits.value]
  by_cases onGrid : order - k ≤ o.exponent
  · obtain ⟨places, above⟩ := Int.le.dest onGrid
    have whole : (o.digits : ℚ) * 10 ^ o.exponent =
        (o.digits * 10 ^ places : Nat) * 10 ^ (order - k) := by
      rw [pow_on_grid (show o.exponent = places + (order - k) by omega)]
      push_cast
      ring
    rw [whole, mul_le_mul_iff_left₀ grid, mul_le_mul_iff_left₀ grid]
    exact_mod_cast (Nat.lt_or_ge below (o.digits * 10 ^ places)).symm
  · left
    have lead : order - 1 = (k - 1 : Nat) + (order - k) := by omega
    have first : 10 ^ (k - 1) ≤ below := by
      rw [pow_on_grid lead, ← le_div_iff₀ grid] at least
      have bound := lt_of_le_of_lt least most
      have bound : 10 ^ (k - 1) < below + 1 := by exact_mod_cast bound
      omega
    have fewQ : (o.digits : ℚ) ≤ 10 ^ k := by exact_mod_cast few.le
    have finer : (10 : ℚ) ^ o.exponent ≤ 10 ^ (order - k - 1) :=
      zpow_le_zpow_right₀ (by norm_num) (by omega)
    calc (o.digits : ℚ) * 10 ^ o.exponent ≤ 10 ^ k * 10 ^ (order - k - 1) :=
          mul_le_mul fewQ finer (by positivity) (by positivity)
      _ = 10 ^ (order - 1) := (pow_on_grid (by omega)).symm
      _ = 10 ^ (k - 1) * 10 ^ (order - k) := pow_on_grid lead
      _ ≤ below * 10 ^ (order - k) :=
          mul_le_mul_of_nonneg_right (by exact_mod_cast first) grid.le

def gridOf (x : Binary64) (count : Nat) : Int := decimalOrder x.units unitsOfOne - count

/-- A double that is not negative stands between its neighbours on a grid, and every decimal of so
many digits is at one of them or beyond. -/
theorem neighbours_around (nonzero : x.magnitude ≠ 0) (positive : x.isNegative = false)
    (tie : Tie) (count : Nat) :
    ∃ low high : Digits, low.value ≤ x.toRat ∧ x.toRat < high.value ∧
      (0 < count → ∀ o : Digits, o.digits < 10 ^ count →
        o.value ≤ low.value ∨ high.value ≤ o.value) ∧
      (neighbours tie x.units unitsOfOne (gridOf x count) = [low, high] ∧
          (tie = .up → x.toRat - low.value < high.value - x.toRat) ∨
        neighbours tie x.units unitsOfOne (gridOf x count) = [high, low] ∧
          high.value - x.toRat ≤ x.toRat - low.value) := by
  have grid : (0 : ℚ) < 10 ^ gridOf x count := by positivity
  obtain ⟨least, -⟩ := decimalOrder_bounds (units_pos nonzero) unitsOfOne_pos
  obtain ⟨below, low, high, order⟩ :=
    neighbours_cases unitsOfOne_pos tie x.units (gridOf x count)
  rw [← toRat_of_positive positive] at least low high order
  have scaled : x.toRat / 10 ^ gridOf x count * 10 ^ gridOf x count = x.toRat :=
    div_mul_cancel₀ _ grid.ne'
  have values : Digits.value ⟨below + 1, gridOf x count⟩ = (below + 1) * 10 ^ gridOf x count := by
    rw [Digits.value]
    push_cast
    rfl
  refine ⟨⟨below, gridOf x count⟩, ⟨below + 1, gridOf x count⟩, ?_, ?_, ?_, ?_⟩
  · rwa [Digits.value, ← le_div_iff₀ grid]
  · rwa [values, ← div_lt_iff₀ grid]
  · intro some o few
    rw [values]
    exact value_le_or_le some few least high
  · rw [values, Digits.value]
    obtain ⟨both, -, strict⟩ | ⟨both, upper⟩ := order
    · refine .inl ⟨both, fun up => ?_⟩
      have strict := mul_lt_mul_of_pos_right (strict up) grid
      linarith
    · refine .inr ⟨both, ?_⟩
      have upper := mul_le_mul_of_nonneg_right upper grid.le
      linarith

/-- If a decimal of so many digits rounds to a double, so does a neighbour on their grid. -/
theorem exists_neighbour_of_rounds (finite : x.isFinite = true) (nonzero : x.magnitude ≠ 0)
    (positive : x.isNegative = false) (tie : Tie) (some : 0 < k) (few : o.digits < 10 ^ k)
    (rounds : Rounds false o.value x) :
    ∃ d ∈ neighbours tie x.units unitsOfOne (gridOf x k), d.readsBack x = true := by
  obtain ⟨low, high, below, above, apart, order⟩ := neighbours_around nonzero positive tie k
  have both : ∀ d, d = low ∨ d = high → d ∈ neighbours tie x.units unitsOfOne (gridOf x k) := by
    intro d either
    obtain ⟨both, -⟩ | ⟨both, -⟩ := order
    · simpa [both] using either
    · simpa [both] using either.symm
  obtain lower | higher := apart some o few
  · refine ⟨low, both low (.inl rfl), (readsBack_iff_rounds positive).mpr ?_⟩
    exact rounds.between finite (.inr ⟨lower, below⟩)
  · refine ⟨high, both high (.inr rfl), (readsBack_iff_rounds positive).mpr ?_⟩
    exact rounds.between finite (.inl ⟨above.le, higher⟩)

theorem find?_pair {α : Type} {p : α → Bool} {a b c : α} (found : [a, b].find? p = some c) :
    c = a ∨ p a ≠ true ∧ c = b := by
  rw [List.find?_cons] at found
  split at found
  · exact .inl (Option.some.inj found).symm
  · rename_i missed
    rw [List.find?_cons] at found
    split at found
    · exact .inr ⟨by simp [missed], (Option.some.inj found).symm⟩
    · cases found

/-- The neighbour that is found first is nearest among all decimals of so many digits that round to
the double, and the greater one of two that are equally near. -/
theorem nearest_of_find? (finite : x.isFinite = true) (nonzero : x.magnitude ≠ 0)
    (positive : x.isNegative = false) (counted : 0 < k)
    (found : (neighbours .up x.units unitsOfOne (gridOf x k)).find? (·.readsBack x) = some d)
    (few : o.digits < 10 ^ k) (rounds : Rounds false o.value x) :
    |d.value - x.toRat| ≤ |o.value - x.toRat| ∧
      (|o.value - x.toRat| = |d.value - x.toRat| → o.value ≤ d.value) := by
  obtain ⟨low, high, below, above, apart, order⟩ := neighbours_around nonzero positive .up k
  have apart := apart counted o few
  have lowReads : o.value ≤ low.value → low.readsBack x = true := fun lower =>
    (readsBack_iff_rounds positive).mpr (rounds.between finite (.inr ⟨lower, below⟩))
  have highReads : high.value ≤ o.value → high.readsBack x = true := fun higher =>
    (readsBack_iff_rounds positive).mpr (rounds.between finite (.inl ⟨above.le, higher⟩))
  have distance := abs_cases (o.value - x.toRat)
  have lowDistance : |low.value - x.toRat| = x.toRat - low.value := by
    rw [abs_of_nonpos (by linarith), neg_sub]
  have highDistance : |high.value - x.toRat| = high.value - x.toRat :=
    abs_of_nonneg (by linarith)
  obtain ⟨both, strict⟩ | ⟨both, upper⟩ := order
  · have strict := strict rfl
    rw [both] at found
    obtain rfl | ⟨missed, rfl⟩ := find?_pair found <;> grind
  · rw [both] at found
    obtain rfl | ⟨missed, rfl⟩ := find?_pair found <;> grind

def significantDigits (n : Nat) : Nat :=
  ((Numeral.digits n).reverse.dropWhile (· == '0')).length

theorem significantDigits_le_iff (pos : 0 < n) :
    significantDigits n ≤ k ↔ ∃ c zeros, c < 10 ^ k ∧ n = c * 10 ^ zeros := by
  constructor
  · intro few
    obtain ⟨zeros, form⟩ := Numeral.exists_trailing (Numeral.digits n)
    rw [significantDigits, ← List.length_reverse] at few
    generalize ((Numeral.digits n).reverse.dropWhile (· == '0')).reverse = ds at form few
    have value := Numeral.value_digits n
    rw [form, Numeral.value_append, Numeral.value_zeros, List.length_replicate,
      Nat.add_zero] at value
    have digits : ∀ c ∈ ds, Numeral.isDigit c = true := fun c mem =>
      Numeral.isDigit_of_mem_digits (n := n) (form ▸ List.mem_append_left _ mem)
    exact ⟨Numeral.value ds, zeros, Nat.lt_of_lt_of_le (Numeral.value_lt digits)
      (Nat.pow_le_pow_right (by decide) few), value.symm⟩
  · rintro ⟨c, zeros, few, rfl⟩
    have some : 0 < c := Nat.pos_of_mul_pos_right pos
    have counted : 0 < k := Nat.pos_of_ne_zero fun none => by
      rw [none, Nat.pow_zero] at few
      omega
    have short := (Numeral.length_digits_le_iff counted).mpr few
    have dropped : (List.replicate zeros '0').dropWhile (· == '0') = [] := by simp
    rw [significantDigits, Numeral.digits_mul_ten_pow some, List.reverse_append,
      List.reverse_replicate, List.dropWhile_append, dropped, List.isEmpty_nil, if_pos rfl]
    exact Nat.le_trans (List.length_dropWhile_le _ _) (by rwa [List.length_reverse])

theorem significantDigits_pos (pos : 0 < n) : 0 < significantDigits n := by
  refine Nat.pos_of_ne_zero fun none => ?_
  obtain ⟨c, zeros, few, rfl⟩ := (significantDigits_le_iff pos).mp (Nat.le_of_eq none)
  rw [Nat.pow_zero] at few
  have zero : c = 0 := by omega
  rw [zero, Nat.zero_mul] at pos
  exact Nat.lt_irrefl 0 pos

/-- A whole number that stands for a double: of all that round to it, one with the fewest digits in
front of its zeros, the nearest one of these, and the greater one of two that are equally near. -/
structure IsPlainest (x : Binary64) (n : Nat) : Prop where
  rounds : ofInt n = x
  fewest : ∀ m : Nat, ofInt m = x → significantDigits n ≤ significantDigits m
  nearest : ∀ m : Nat, ofInt m = x → significantDigits m = significantDigits n →
    |(n : ℚ) - x.toRat| ≤ |(m : ℚ) - x.toRat|
  greater : ∀ m : Nat, ofInt m = x → significantDigits m = significantDigits n →
    |(m : ℚ) - x.toRat| = |(n : ℚ) - x.toRat| → m ≤ n

theorem IsPlainest.unique (first : IsPlainest x n) (second : IsPlainest x m) : n = m := by
  have same := Nat.le_antisymm (first.fewest m second.rounds) (second.fewest n first.rounds)
  have near := first.nearest m second.rounds same.symm
  have far := second.nearest n first.rounds same
  have equal := le_antisymm near far
  exact Nat.le_antisymm (second.greater n first.rounds same equal)
    (first.greater m second.rounds same.symm equal.symm)

theorem ofInt_natCast (n : Nat) : ofInt n = ofRatio false n 1 := by
  have positive : ¬ (n : Int) < 0 := by omega
  rw [ofInt, decide_eq_false positive, Int.natAbs_natCast]

theorem rounds_ofInt (n : Nat) : Rounds false n (ofInt n) := by
  have rounds := rounds_ofRatio false Nat.one_pos n
  rw [Nat.cast_one, div_one] at rounds
  rw [ofInt_natCast]
  exact rounds

theorem ofInt_eq_iff : ofInt n = x ↔ Rounds false n x := by
  constructor
  · rintro rfl
    exact rounds_ofInt n
  · exact (rounds_ofInt n).unique

theorem pos_of_ofInt_eq (nonzero : x.magnitude ≠ 0) (same : ofInt n = x) : 0 < n := by
  refine Nat.pos_of_ne_zero fun none => nonzero ?_
  rw [← same, none]
  decide +kernel

/-- A decimal with an exponent that is not negative, as a whole number. -/
def Digits.toNat (d : Digits) : Nat := d.digits * 10 ^ d.exponent.toNat

theorem Digits.value_of_whole (whole : 0 ≤ d.exponent) : d.value = d.toNat := by
  rw [Digits.value, Digits.toNat, ten_zpow, show (-d.exponent).toNat = 0 by omega]
  push_cast
  rw [pow_zero, div_one]

theorem Digits.value_ofNat (c zeros : Nat) :
    Digits.value ⟨c, (zeros : Int)⟩ = (c * 10 ^ zeros : Nat) :=
  Digits.value_of_whole (d := ⟨c, zeros⟩) (Int.natCast_nonneg zeros)

theorem Digits.significantDigits_toNat_le (some : 0 < d.digits) (counted : 0 < k)
    (few : d.digits ≤ 10 ^ k) : significantDigits d.toNat ≤ k := by
  have pos : 0 < d.toNat := Nat.mul_pos some (Nat.pow_pos (by decide))
  rw [significantDigits_le_iff pos]
  obtain less | power := Nat.lt_or_eq_of_le few
  · exact ⟨d.digits, d.exponent.toNat, less, rfl⟩
  · refine ⟨1, k + d.exponent.toNat, Nat.one_lt_pow (by omega) (by decide), ?_⟩
    rw [Digits.toNat, power, Nat.one_mul, Nat.pow_add]

theorem exists_digits_of_ofInt (nonzero : x.magnitude ≠ 0) (same : ofInt m = x)
    (few : significantDigits m ≤ k) :
    ∃ o : Digits, o.digits < 10 ^ k ∧ o.value = m ∧ Rounds false o.value x := by
  have pos := pos_of_ofInt_eq nonzero same
  obtain ⟨c, zeros, fewer, rfl⟩ := (significantDigits_le_iff pos).mp few
  have value := Digits.value_ofNat c zeros
  exact ⟨⟨c, zeros⟩, fewer, value, value ▸ ofInt_eq_iff.mp same⟩

/-- The shortest digits, where they are a whole number, are the plainest one. -/
theorem isPlainest_shortest (finite : x.isFinite = true) (nonzero : x.magnitude ≠ 0)
    (positive : x.isNegative = false) (whole : 0 ≤ (shortest .up x).exponent) :
    IsPlainest x (shortest .up x).toNat := by
  obtain ⟨count, counted, -, found, least⟩ := shortest_least .up finite nonzero
  have isNeighbour := List.mem_of_find?_eq_some found
  have reads := List.find?_some found
  obtain ⟨some, few⟩ :=
    digits_of_mem_neighbours (units_pos nonzero) unitsOfOne_pos counted isNeighbour
  have rounds := (readsBack_iff_rounds positive).mp reads
  generalize shortest .up x = d at whole found some few rounds
  have value := Digits.value_of_whole whole
  have short := Digits.significantDigits_toNat_le some counted few
  have nearest : ∀ m : Nat, ofInt m = x → significantDigits m = significantDigits d.toNat →
      |d.value - x.toRat| ≤ |(m : ℚ) - x.toRat| ∧
        (|(m : ℚ) - x.toRat| = |d.value - x.toRat| → (m : ℚ) ≤ d.value) := by
    intro m same alike
    obtain ⟨o, fewer, own, other⟩ :=
      exists_digits_of_ofInt nonzero same (Nat.le_trans (Nat.le_of_eq alike) short)
    rw [← own]
    exact nearest_of_find? finite nonzero positive counted found fewer other
  have fewest : ∀ m : Nat, ofInt m = x → count ≤ significantDigits m := by
    intro m same
    have digits := significantDigits_pos (pos_of_ofInt_eq nonzero same)
    obtain ⟨o, fewer, -, other⟩ := exists_digits_of_ofInt nonzero same (Nat.le_refl _)
    obtain ⟨neighbour, mem, reads⟩ :=
      exists_neighbour_of_rounds finite nonzero positive .up digits fewer other
    exact Nat.not_lt.mp fun less => least _ digits less neighbour mem reads
  rw [value] at rounds nearest
  exact {
    rounds := ofInt_eq_iff.mpr rounds
    fewest := fun m same => Nat.le_trans short (fewest m same)
    nearest := fun m same alike => (nearest m same alike).1
    greater := fun m same alike equal => by exact_mod_cast (nearest m same alike).2 equal }

theorem toText_of_whole (finite : x.isFinite = true) (nonzero : x.magnitude ≠ 0)
    (positive : x.isNegative = false) (whole : 0 ≤ (shortest .up x).exponent) :
    x.toText = Numeral.ofNat (shortest .up x).toNat := by
  obtain ⟨-, some, -⟩ := shortest_spec .up finite nonzero
  have notNaN : ¬ x.isNaN = true := by
    have below := isFinite_iff.mp finite
    rw [isNaN, decide_eq_true_eq]
    omega
  rw [toText, if_neg notNaN, if_neg (by simp [finite]), placed_of_nonzero nonzero]
  dsimp only
  rw [withSign, if_neg (by simp [positive]), Digits.order, Digits.toNat, Numeral.ofNat]
  generalize shortest .up x = d at whole some
  obtain ⟨zeros, form⟩ := Numeral.exists_trailing (Numeral.digits d.digits)
  generalize ((Numeral.digits d.digits).reverse.dropWhile (· == '0')).reverse = ds at form ⊢
  have long := Numeral.length_digits_pos d.digits
  have length : (Numeral.digits d.digits).length = ds.length + zeros := by
    rw [form, List.length_append, List.length_replicate]
  have point : (((Numeral.digits d.digits).length : Int) + d.exponent).toNat =
      ds.length + (zeros + d.exponent.toNat) := by omega
  rw [layOut, if_neg (by omega), point, List.take_of_length_le (Nat.le_add_right _ _),
    List.drop_eq_nil_of_le (Nat.le_add_right _ _), Nat.add_sub_cancel_left]
  dsimp only
  rw [List.isEmpty_nil, if_pos rfl, Numeral.digits_mul_ten_pow some, form, List.append_assoc,
    List.replicate_append_replicate]

end Geoflow.Binary64
