import Geoflow.Json.Reader
import Geoflow.Proofs.Binary64.Fewest
import Geoflow.Proofs.Json.Codec

set_option autoImplicit false

namespace Geoflow

namespace Binary64

variable {x y : Binary64} {n : Nat}

theorem unitsOfOne_le_units (some : 0 < n) (below : (n : ℚ) < overflow) :
    unitsOfOne ≤ (ofRatio false n 1).units := by
  have oneUnits : (ofRatio false 1 1).units = unitsOfOne := by decide +kernel
  have oneSmall : ((1 : Nat) : ℚ) < overflow := natCast_lt_overflow (by decide)
  have oneFinite := isFinite_ofRatio_one false oneSmall
  have posQ : (0 : ℚ) < unitsOfOne := by exact_mod_cast unitsOfOne_pos
  by_contra less
  have under : ((ofRatio false n 1).units : ℚ) / unitsOfOne < 1 := by
    rw [div_lt_one posQ]
    exact_mod_cast Nat.lt_of_not_le less
  have least : (1 : ℚ) ≤ n := by exact_mod_cast some
  -- The double of one would be nearer.
  have near := (rounds_ofRatio false Nat.one_pos n).near
    (by rw [abs_signed, Nat.cast_one, div_one, abs_of_nonneg (Nat.cast_nonneg n)]; exact below)
    (ofRatio false 1 1) oneFinite
  rw [toRat_of_positive (isNegative_ofRatio false n 1),
    toRat_of_positive (isNegative_ofRatio false 1 1), oneUnits, div_self posQ.ne', signed,
    if_neg Bool.false_ne_true, Nat.cast_one, div_one,
    abs_of_nonpos (by linarith), abs_of_nonpos (by linarith)] at near
  linarith

theorem isFinite_div (finite : x.isFinite = true) (large : unitsOfOne ≤ y.units) :
    (x.div y).isFinite = true := by
  have posQ : (0 : ℚ) < unitsOfOne := by exact_mod_cast unitsOfOne_pos
  have largeQ : (unitsOfOne : ℚ) ≤ y.units := by exact_mod_cast large
  have pos : 0 < y.units := Nat.lt_of_lt_of_le unitsOfOne_pos large
  have below := abs_toRat_lt_overflow finite
  rw [abs_toRat] at below
  apply (rounds_ofRatio (x.isNegative != y.isNegative) pos x.units).finite
  rw [abs_signed, abs_of_nonneg (by positivity)]
  have shrinks : (x.units : ℚ) / y.units ≤ x.units / unitsOfOne :=
    div_le_div_of_nonneg_left (Nat.cast_nonneg _) posQ largeQ
  exact lt_of_le_of_lt shrinks below

end Binary64

namespace Json

open Binary64 (unitsOfOne overflow)

variable {x y : Binary64} {n : NumberText}

theorem gather_lt (k : Nat) (ds : List Char) (small : k < UInt64.size) :
    (gather k ds).1 < UInt64.size := by
  fun_induction gather k ds with
  | case1 => exact small
  | case2 _ _ _ _ fits ih => exact ih fits
  | case3 => exact small

theorem ten_pow_lt_overflow {power : Nat} (small : power ≤ largestPower) :
    ((Nat.pow 10 power : Nat) : ℚ) < overflow := by
  have bound : 10 ^ power ≤ 10 ^ largestPower := Nat.pow_le_pow_right (by decide) small
  have boundQ : ((10 ^ power : Nat) : ℚ) ≤ (10 ^ largestPower : Nat) := Nat.cast_le.mpr bound
  have top : 10 ^ largestPower + 2 ^ 970 < 2 ^ 1024 := by decide +kernel
  have topQ : ((10 ^ largestPower + 2 ^ 970 : Nat) : ℚ) < (2 ^ 1024 : Nat) := Nat.cast_lt.mpr top
  rw [Nat.cast_add, Nat.cast_pow 2 970, Nat.cast_pow 2 1024, Nat.cast_ofNat] at topQ
  exact lt_of_le_of_lt boundQ (lt_sub_iff_add_lt.mpr topQ)

theorem isFinite_div_pow (finite : x.isFinite = true) {power : Nat} (small : power ≤ largestPower) :
    (x.div (.ofRatio false (Nat.pow 10 power) 1)).isFinite = true :=
  Binary64.isFinite_div finite
    (Binary64.unitsOfOne_le_units (Nat.pow_pos (by decide)) (ten_pow_lt_overflow small))

theorem isFinite_scaleDown (finite : x.isFinite = true) (fuel power : Nat) :
    (scaleDown x fuel power).isFinite = true := by
  induction fuel generalizing x power with
  | zero => exact finite
  | succ fuel ih =>
    rw [scaleDown]
    split
    · rename_i small
      exact isFinite_div_pow finite small
    · split
      · exact finite
      · exact ih (isFinite_div_pow finite (Nat.le_refl _)) _

theorem isFinite_scaleUp? (finite : x.isFinite = true) {power : Nat}
    (scaled : scaleUp? x power = some y) : y.isFinite = true := by
  rw [scaleUp?] at scaled
  split at scaled
  · dsimp only at scaled
    split at scaled
    · rename_i productFinite
      cases scaled
      exact productFinite
    · cases scaled
  · split at scaled
    · cases scaled
      exact finite
    · cases scaled

theorem isFinite_neg (finite : x.isFinite = true) : x.neg.isFinite = true := by
  have below := Binary64.isFinite_iff.mp finite
  have same : x.neg.magnitude = x.magnitude :=
    Binary64.magnitude_ofMagnitude _ (Nat.lt_trans below (by decide))
  rw [Binary64.isFinite_iff, same]
  exact below

theorem isFinite_of_scaled {significand : Nat} (small : significand < 2 ^ 64) {overlong : Bool}
    {exponent power : Int}
    (scaled : (if overlong then
        if significand ≠ 0 ∧ 0 < exponent then none else some (Binary64.zero false)
      else if 0 ≤ power then scaleUp? (.ofRatio false significand 1) power.toNat
      else some (scaleDown (.ofRatio false significand 1) 4 power.natAbs)) = some x) :
    x.isFinite = true := by
  have rounded := Binary64.isFinite_ofRatio_one false (Binary64.natCast_lt_overflow small)
  split at scaled
  · split at scaled
    · cases scaled
    · cases scaled
      decide
  · split at scaled
    · exact isFinite_scaleUp? rounded scaled
    · cases scaled
      exact isFinite_scaleDown rounded _ _

theorem isFinite_of_toBinary64? (read : n.toBinary64? = some x) : x.isFinite = true := by
  have whole := gather_lt 0 n.whole (by decide)
  have significand := gather_lt (gather 0 n.whole).1 n.fraction whole
  simp only [NumberText.toBinary64?, Option.map_eq_some_iff] at read
  obtain ⟨magnitude, scaled, signed⟩ := read
  have finite : magnitude.isFinite = true := isFinite_of_scaled significand scaled
  rw [← signed]
  split
  · exact isFinite_neg finite
  · exact finite

/-- The numbers of a text are whole ones of the 64-bit ranges and finite doubles. -/
theorem proper_of_number {doc : Json} (read : n.toJson? = some doc) (depth : Nat) :
    Proper (fun x => x.isFinite = true) depth doc := by
  have size : UInt64.size = 2 ^ 64 := rfl
  have half : Nat.pow 2 63 = 2 ^ 63 := rfl
  obtain ⟨negative, digits, fraction, exponent⟩ := n
  simp only [NumberText.toJson?, size, half] at read
  by_cases whole : fraction.isEmpty = true ∧ exponent.isNone = true ∧
      (if negative = true then 0 < Numeral.value digits ∧ Numeral.value digits ≤ 2 ^ 63
        else Numeral.value digits < 2 ^ 64)
  · rw [if_pos whole] at read
    cases read
    obtain ⟨-, -, range⟩ := whole
    cases negative with
    | true =>
      rw [if_pos rfl] at range ⊢
      exact .int (by omega) (by omega)
    | false =>
      rw [if_neg Bool.false_ne_true] at range ⊢
      exact .int (by omega) (by omega)
  · rw [if_neg whole] at read
    obtain ⟨x, found, same⟩ := Option.map_eq_some_iff.mp read
    rw [← same]
    exact .float (isFinite_of_toBinary64? found)

mutual

/-- A text is parsed to a document that can be written again. -/
theorem proper_of_toJson? (raw : Raw) (depth : Nat) (doc : Json)
    (read : raw.toJson? depth = some doc) : Proper (fun x => x.isFinite = true) depth doc := by
  cases raw with
  | null =>
    cases read
    exact .null
  | bool b =>
    cases read
    exact .bool b
  | number n => exact proper_of_number read depth
  | string s =>
    obtain ⟨text, -, same⟩ := Option.map_eq_some_iff.mp read
    rw [← same]
    exact .str text
  | array items =>
    cases depth with
    | zero => cases read
    | succ depth =>
      obtain ⟨docs, found, same⟩ := Option.map_eq_some_iff.mp read
      rw [← same]
      exact .arr (proper_of_itemsToJson? items depth docs found)
  | object entries =>
    cases depth with
    | zero => cases read
    | succ depth =>
      obtain ⟨docs, found, same⟩ := Option.map_eq_some_iff.mp read
      rw [← same]
      exact .ofEntries (proper_of_entriesToJson? entries depth docs found)

theorem proper_of_itemsToJson? (items : List Raw) (depth : Nat) (docs : List Json)
    (read : Raw.itemsToJson? items depth = some docs) :
    ∀ doc ∈ docs, Proper (fun x => x.isFinite = true) depth doc := by
  cases items with
  | nil =>
    cases read
    exact nofun
  | cons item items =>
    simp only [Raw.itemsToJson?, Option.bind_eq_bind, Option.bind_eq_some_iff] at read
    obtain ⟨first, readFirst, rest, readRest, same⟩ := read
    cases same
    exact List.forall_mem_cons.mpr ⟨proper_of_toJson? item depth first readFirst,
      proper_of_itemsToJson? items depth rest readRest⟩

theorem proper_of_entriesToJson? (entries : List (Option String × Raw)) (depth : Nat)
    (docs : List (String × Json)) (read : Raw.entriesToJson? entries depth = some docs) :
    ∀ entry ∈ docs, Proper (fun x => x.isFinite = true) depth entry.2 := by
  cases entries with
  | nil =>
    cases read
    exact nofun
  | cons entry entries =>
    obtain ⟨name, value⟩ := entry
    simp only [Raw.entriesToJson?, Option.bind_eq_bind, Option.bind_eq_some_iff] at read
    obtain ⟨name, -, first, readFirst, rest, readRest, same⟩ := read
    cases same
    exact List.forall_mem_cons.mpr ⟨proper_of_toJson? value depth first readFirst,
      proper_of_entriesToJson? entries depth rest readRest⟩

end

/-- Whatever text a document comes from, it can be written and parsed again. -/
theorem storable_of_parse? {text : String} {doc : Json} (parsed : Json.parse? text = some doc) :
    Storable doc := by
  obtain ⟨raw, -, read⟩ := Option.bind_eq_some_iff.mp parsed
  exact proper_of_toJson? raw depthLimit doc read

def numberIn? {δ : Type} : View δ → Option Json
  | .int n => some (.int n)
  | .float x => some (.float x)
  | _ => none

theorem exists_number {d : Nested} {doc : Json} (seen : numberIn? (Document.view d) = some doc) :
    ∃ n : NumberText, n.toJson? = some doc := by
  change numberIn? d.view = some doc at seen
  unfold Nested.view at seen
  split at seen
  · cases seen
  · cases seen
  · rename_i n _
    split at seen
    · rename_i read
      cases seen
      exact ⟨n, read⟩
    · rename_i read
      cases seen
      exact ⟨n, read⟩
    · cases seen
  · cases seen
  · cases seen
  · cases seen
  · split at seen <;> cases seen
  · cases seen

/-- Raw texts are like that, whatever they hold. -/
theorem nested_regular : Document.Regular fun _ : Nested => True where
  int := by
    intro d n _ seen
    obtain ⟨number, read⟩ := exists_number (congrArg numberIn? seen)
    cases proper_of_number read 0 with
    | int least greatest => exact ⟨least, greatest⟩
  float := by
    intro d x _ seen
    obtain ⟨number, read⟩ := exists_number (congrArg numberIn? seen)
    cases proper_of_number read 0 with
    | float finite => exact finite
  item := fun _ _ _ _ => trivial
  entry := fun _ _ _ _ => trivial

end Json

end Geoflow
