import Geoflow.Proofs.Binary64.Nearest
import Geoflow.Proofs.Binary64.Shortest

set_option autoImplicit false

namespace Geoflow.Decimal

open Numeral (isDigit)

/-- A sign as it is written. -/
inductive Sign where
  | absent
  | plus
  | minus
  deriving DecidableEq, Repr

namespace Sign

def chars : Sign → List Char
  | absent => []
  | plus => ['+']
  | minus => ['-']

def isMinus (sign : Sign) : Bool := sign = minus

end Sign

/-- An exponent with its mark. -/
structure ExponentPart where
  mark : Char
  sign : Sign
  digits : List Char
  isMark : mark = 'e' ∨ mark = 'E'
  allDigits : ∀ c ∈ digits, isDigit c = true
  nonempty : digits ≠ []

namespace ExponentPart

def chars (part : ExponentPart) : List Char := part.mark :: (part.sign.chars ++ part.digits)

def value (part : ExponentPart) : Int :=
  if part.sign.isMinus then -(Numeral.value part.digits : Int) else Numeral.value part.digits

end ExponentPart

/-- A decimal literal. There is a digit before the point or behind it. -/
structure Literal where
  sign : Sign
  whole : List Char
  fraction : Option (List Char)
  exponent : Option ExponentPart
  wholeDigits : ∀ c ∈ whole, isDigit c = true
  fractionDigits : ∀ c ∈ fraction.getD [], isDigit c = true
  nonempty : whole ++ fraction.getD [] ≠ []

def fractionChars (fraction : Option (List Char)) : List Char :=
  (fraction.map ('.' :: ·)).getD []

def exponentChars (exponent : Option ExponentPart) : List Char :=
  (exponent.map ExponentPart.chars).getD []

def exponentValue (exponent : Option ExponentPart) : Int :=
  (exponent.map ExponentPart.value).getD 0

namespace Literal

def unsignedChars (l : Literal) : List Char :=
  l.whole ++ (fractionChars l.fraction ++ exponentChars l.exponent)

def chars (l : Literal) : List Char := l.sign.chars ++ l.unsignedChars

def value (l : Literal) : ℚ :=
  Binary64.signed l.sign.isMinus ((Numeral.value l.whole +
    Numeral.value (l.fraction.getD []) / 10 ^ (l.fraction.getD []).length) *
      10 ^ exponentValue l.exponent)

def decimal (l : Literal) : Decimal :=
  ⟨l.sign.isMinus, Numeral.value (l.whole ++ l.fraction.getD []),
    exponentValue l.exponent - (l.fraction.getD []).length⟩

end Literal

variable {cs digits rest : List Char} {negative : Bool} {sign : Sign} {d : Decimal}

def StopsDigits (rest : List Char) : Prop := ∀ c, rest.head? = some c → isDigit c = false

theorem takeWhile_digits (allDigits : ∀ c ∈ digits, isDigit c = true) (stops : StopsDigits rest) :
    (digits ++ rest).takeWhile isDigit = digits ∧ (digits ++ rest).dropWhile isDigit = rest := by
  induction digits with
  | nil =>
    cases rest with
    | nil => exact ⟨rfl, rfl⟩
    | cons c rest =>
      have none := stops c rfl
      exact ⟨List.takeWhile_cons_of_neg (by simp [none]),
        List.dropWhile_cons_of_neg (by simp [none])⟩
  | cons d digits ih =>
    obtain ⟨digit, allDigits⟩ := List.forall_mem_cons.mp allDigits
    obtain ⟨taken, dropped⟩ := ih allDigits
    rw [List.cons_append, List.takeWhile_cons_of_pos digit, List.dropWhile_cons_of_pos digit, taken]
    exact ⟨rfl, dropped⟩

theorem readInt?_signed (allDigits : ∀ c ∈ digits, isDigit c = true) (nonempty : digits ≠ []) :
    Numeral.readInt? (sign.chars ++ digits) =
      some (if sign.isMinus then -(Numeral.value digits : Int) else Numeral.value digits) := by
  have read := Numeral.readNat?_eq_some_iff.mpr ⟨nonempty, allDigits, rfl⟩
  cases sign with
  | plus =>
    change Option.map _ (Option.bind (Numeral.readNat? digits) _) = _
    rw [read]
    rfl
  | minus =>
    change Option.map _ (Option.bind (Numeral.readNat? digits) _) = _
    rw [read]
    rfl
  | absent =>
    cases digits with
    | nil => exact absurd rfl nonempty
    | cons d digits =>
      obtain ⟨digit, -⟩ := List.forall_mem_cons.mp allDigits
      rw [Sign.chars, List.nil_append, Numeral.readInt?_of_isDigit digit, read]
      rfl

theorem exists_of_readInt? {i : Int} (read : Numeral.readInt? cs = some i) :
    ∃ sign digits, cs = Sign.chars sign ++ digits ∧ digits ≠ [] ∧
      (∀ c ∈ digits, isDigit c = true) ∧
      i = if sign.isMinus then -(Numeral.value digits : Int) else Numeral.value digits := by
  unfold Numeral.readInt? at read
  split at read
  all_goals
    obtain ⟨_, number, rfl⟩ := Option.map_eq_some_iff.mp read
    obtain ⟨n, found, same⟩ := Option.bind_eq_some_iff.mp number
    cases same
    obtain ⟨nonempty, allDigits, rfl⟩ := Numeral.readNat?_eq_some_iff.mp found
  · exact ⟨.minus, _, rfl, nonempty, allDigits, rfl⟩
  · exact ⟨.plus, _, rfl, nonempty, allDigits, rfl⟩
  · exact ⟨.absent, _, rfl, nonempty, allDigits, rfl⟩

theorem readExponent?_chars (exponent : Option ExponentPart) :
    readExponent? (exponentChars exponent) = some (exponentValue exponent) := by
  cases exponent with
  | none => rfl
  | some part =>
    change (if part.mark = 'e' ∨ part.mark = 'E' then
      Numeral.readInt? (part.sign.chars ++ part.digits) else none) = some part.value
    rw [if_pos part.isMark]
    exact readInt?_signed part.allDigits part.nonempty

theorem exists_of_readExponent? {i : Int} (read : readExponent? cs = some i) :
    ∃ exponent, cs = exponentChars exponent ∧ i = exponentValue exponent := by
  cases cs with
  | nil => exact ⟨none, rfl, (Option.some.inj read).symm⟩
  | cons c rest =>
    rw [readExponent?] at read
    split at read
    · rename_i isMark
      obtain ⟨sign, digits, rfl, nonempty, allDigits, value⟩ := exists_of_readInt? read
      exact ⟨some ⟨c, sign, digits, isMark, allDigits, nonempty⟩, rfl, value⟩
    · cases read

theorem head?_exponentChars (exponent : Option ExponentPart) :
    exponentChars exponent = [] ∨ ∃ c rest, exponentChars exponent = c :: rest ∧
      (c = 'e' ∨ c = 'E') := by
  cases exponent with
  | none => exact .inl rfl
  | some part => exact .inr ⟨part.mark, _, rfl, part.isMark⟩

theorem stopsDigits_exponentChars (exponent : Option ExponentPart) :
    StopsDigits (exponentChars exponent) := by
  intro c head
  obtain none | ⟨d, rest, same, isMark⟩ := head?_exponentChars exponent
  · rw [none] at head
    cases head
  · rw [same] at head
    cases head
    obtain rfl | rfl := isMark <;> decide

def fractionOf (rest : List Char) : List Char × List Char :=
  match rest with
  | '.' :: after => (after.takeWhile isDigit, after.dropWhile isDigit)
  | _ => ([], rest)

theorem readUnsigned?_eq (negative : Bool) (cs : List Char) : readUnsigned? negative cs =
    let whole := cs.takeWhile isDigit
    let (fraction, tail) := fractionOf (cs.dropWhile isDigit)
    if (whole ++ fraction).isEmpty then none
    else (readExponent? tail).map fun exponent =>
      ⟨negative, Numeral.value (whole ++ fraction), exponent - fraction.length⟩ := by
  rfl

theorem fractionOf_chars {fraction : Option (List Char)} (exponent : Option ExponentPart)
    (allDigits : ∀ c ∈ fraction.getD [], isDigit c = true) :
    fractionOf (fractionChars fraction ++ exponentChars exponent) =
      (fraction.getD [], exponentChars exponent) := by
  cases fraction with
  | some ds =>
    obtain ⟨taken, dropped⟩ := takeWhile_digits allDigits (stopsDigits_exponentChars exponent)
    exact Prod.ext taken dropped
  | none =>
    change fractionOf (exponentChars exponent) = ([], exponentChars exponent)
    obtain none | ⟨c, rest, same, isMark⟩ := head?_exponentChars exponent
    · rw [none]
      rfl
    · rw [same]
      obtain rfl | rfl := isMark <;> rfl

theorem exists_of_fractionOf (rest : List Char) :
    ∃ part : Option (List Char), rest = fractionChars part ++ (fractionOf rest).2 ∧
      part.getD [] = (fractionOf rest).1 ∧ ∀ c ∈ (fractionOf rest).1, isDigit c = true := by
  unfold fractionOf
  split
  · rename_i after
    refine ⟨some (after.takeWhile isDigit), ?_, rfl, fun c mem => List.mem_takeWhile_imp mem⟩
    exact congrArg ('.' :: ·) List.takeWhile_append_dropWhile.symm
  · exact ⟨none, rfl, rfl, nofun⟩

theorem Literal.readUnsigned?_chars (l : Literal) (negative : Bool) :
    readUnsigned? negative l.unsignedChars = some { l.decimal with negative } := by
  have stops : StopsDigits (fractionChars l.fraction ++ exponentChars l.exponent) := by
    cases l.fraction with
    | none => exact stopsDigits_exponentChars l.exponent
    | some ds =>
      intro c head
      cases head
      decide
  obtain ⟨taken, dropped⟩ := takeWhile_digits l.wholeDigits stops
  rw [readUnsigned?_eq, unsignedChars, taken, dropped, fractionOf_chars _ l.fractionDigits]
  dsimp only
  rw [if_neg (by simpa [List.isEmpty_iff] using l.nonempty), readExponent?_chars]
  rfl

theorem exists_of_readUnsigned? (sign : Sign) (read : readUnsigned? negative cs = some d) :
    ∃ l : Literal, l.sign = sign ∧ l.unsignedChars = cs ∧ d = { l.decimal with negative } := by
  rw [readUnsigned?_eq] at read
  obtain ⟨part, behind, isFraction, fractionDigits⟩ := exists_of_fractionOf (cs.dropWhile isDigit)
  generalize fractionOf (cs.dropWhile isDigit) = found at read behind isFraction fractionDigits
  obtain ⟨fraction, tail⟩ := found
  dsimp only at read behind isFraction fractionDigits
  split at read
  · cases read
  · rename_i nonempty
    obtain ⟨i, exponentRead, rfl⟩ := Option.map_eq_some_iff.mp read
    obtain ⟨exponent, rfl, rfl⟩ := exists_of_readExponent? exponentRead
    subst isFraction
    refine ⟨⟨sign, cs.takeWhile isDigit, part, exponent, fun c mem => List.mem_takeWhile_imp mem,
      fractionDigits, by simpa [List.isEmpty_iff] using nonempty⟩, rfl, ?_, rfl⟩
    change cs.takeWhile isDigit ++ (fractionChars part ++ exponentChars exponent) = cs
    rw [← behind, List.takeWhile_append_dropWhile]

/-- A literal without sign starts with a digit or a point. -/
theorem Literal.unsignedChars_head (l : Literal) :
    ∃ c rest, l.unsignedChars = c :: rest ∧ (isDigit c = true ∨ c = '.') := by
  cases whole : l.whole with
  | cons c rest =>
    have digit := l.wholeDigits c (by rw [whole]; exact List.mem_cons_self)
    exact ⟨c, _, by rw [unsignedChars, whole]; rfl, .inl digit⟩
  | nil =>
    cases fraction : l.fraction with
    | none => exact absurd (by rw [whole, fraction]; rfl) l.nonempty
    | some ds => exact ⟨'.', _, by rw [unsignedChars, whole, fraction]; rfl, .inr rfl⟩

theorem Literal.read?_chars (l : Literal) : read? l.chars = some l.decimal := by
  have read : readUnsigned? l.sign.isMinus l.unsignedChars = some l.decimal :=
    l.readUnsigned?_chars l.sign.isMinus
  rw [chars]
  cases sign : l.sign with
  | minus =>
    rw [sign] at read
    exact read
  | plus =>
    rw [sign] at read
    exact read
  | absent =>
    rw [sign] at read
    obtain ⟨c, rest, starts, first⟩ := l.unsignedChars_head
    rw [starts] at read
    rw [starts, Sign.chars, List.nil_append]
    have notMinus : c ≠ '-' := by
      rintro rfl
      exact absurd first (by decide)
    have notPlus : c ≠ '+' := by
      rintro rfl
      exact absurd first (by decide)
    unfold read?
    split
    · rename_i same
      exact absurd (List.cons.inj same).1 notMinus
    · rename_i same
      exact absurd (List.cons.inj same).1 notPlus
    · exact read

/-- The reader of decimals takes nothing but literals. -/
theorem exists_literal_of_read? (read : read? cs = some d) :
    ∃ l : Literal, l.chars = cs ∧ l.decimal = d := by
  have assemble : ∀ sign : Sign, ∀ rest, readUnsigned? sign.isMinus rest = some d →
      ∃ l : Literal, l.chars = sign.chars ++ rest ∧ l.decimal = d := by
    intro sign rest read
    obtain ⟨l, rfl, rfl, rfl⟩ := exists_of_readUnsigned? sign read
    exact ⟨l, rfl, rfl⟩
  unfold read? at read
  split at read
  · exact assemble .minus _ read
  · exact assemble .plus _ read
  · exact assemble .absent _ read

end Geoflow.Decimal

namespace Geoflow.Binary64

variable {num den : Nat} {negative : Bool} {d : Digits}

theorem Digits.value_eq_ratio (d : Digits) :
    d.value = (d.digits * 10 ^ d.exponent.toNat : Nat) / (10 ^ (-d.exponent).toNat : Nat) := by
  rw [Digits.value, ten_zpow]
  push_cast
  rw [mul_div_assoc]

theorem Digits.value_nonneg (d : Digits) : 0 ≤ d.value := by
  rw [Digits.value]
  positivity

/-- The order of digits brackets their value. -/
theorem Digits.value_bounds (some : d.digits ≠ 0) :
    (10 : ℚ) ^ (d.order - 1) ≤ d.value ∧ d.value < 10 ^ d.order := by
  obtain ⟨places, count⟩ := Nat.exists_eq_add_one_of_ne_zero
    (Nat.ne_of_gt (Numeral.length_digits_pos d.digits))
  have least := Numeral.pow_length_digits_le (Nat.pos_of_ne_zero some)
  have most := Numeral.lt_pow_length_digits d.digits
  have grid : (0 : ℚ) < 10 ^ d.exponent := by positivity
  have lower : d.order - 1 = places + d.exponent := by rw [Digits.order, count]; omega
  have upper : d.order = (places + 1 : Nat) + d.exponent := by rw [Digits.order, count]
  rw [count] at least most
  rw [Digits.value, pow_on_grid lower, pow_on_grid upper]
  constructor
  · exact mul_le_mul_of_nonneg_right (by exact_mod_cast least) grid.le
  · exact mul_lt_mul_of_pos_right (by exact_mod_cast most) grid

theorem overflow_le_ten_pow : overflow ≤ 10 ^ mostPlaces := by
  have posQ : (0 : ℚ) < unitsOfOne := by exact_mod_cast unitsOfOne_pos
  have unit : (0 : ℚ) < 2 ^ lastPlace := by positivity
  have last : (2 : ℚ) ^ 53 * 2 ^ lastPlace ≤ 10 ^ mostPlaces * unitsOfOne := by
    exact_mod_cast last_le
  refine le_of_mul_le_mul_right ?_ posQ
  rw [overflow_mul_unitsOfOne]
  linarith

/-- Less than half a unit is rounded to zero. -/
theorem rounds_zero (small : d.value * unitsOfOne < 1 / 2) :
    Rounds negative (signed negative d.value) (zero negative) := by
  have pos : 0 < 10 ^ (-d.exponent).toNat := Nat.pow_pos (by decide)
  have rounds := rounds_ofRatio negative pos (d.digits * 10 ^ d.exponent.toNat)
  have nonneg : 0 ≤ d.value * unitsOfOne := mul_nonneg d.value_nonneg (Nat.cast_nonneg _)
  rw [Digits.value_eq_ratio, ← mul_div_right_comm, ← Nat.cast_mul] at small nonneg
  rw [← Digits.value_eq_ratio] at rounds
  have none : roundBits (d.digits * 10 ^ d.exponent.toNat) (10 ^ (-d.exponent).toNat) = 0 := by
    rw [roundBits_eq, nearest_at_place (s := 0) (k := 0) pos (.inl rfl) (by linarith) ?_]
    · rfl
    · rw [Nat.cast_zero, zero_mul, zero_sub, abs_neg, abs_of_nonneg nonneg]
      linarith
  rwa [ofRatio, none] at rounds

theorem rounds_toBinary64 (negative : Bool) (d : Digits) :
    Rounds negative (signed negative d.value)
      (Decimal.toBinary64 ⟨negative, d.digits, d.exponent⟩) := by
  have unitsQ : (unitsOfOne : ℚ) ≤ 10 ^ 324 := by exact_mod_cast unitsOfOne_bounds.2.1
  by_cases some : d.digits = 0
  · rw [toBinary64_cases, if_pos some]
    refine rounds_zero ?_
    rw [Digits.value, some]
    norm_num
  obtain ⟨lower, upper⟩ := Digits.value_bounds some
  by_cases large : 310 < d.order
  · rw [toBinary64_cases, if_neg some, if_pos large]
    refine rounds_infinity ?_
    rw [abs_signed, abs_of_nonneg d.value_nonneg]
    have places : (mostPlaces : Int) ≤ d.order - 1 := by
      rw [mostPlaces]
      omega
    have above := zpow_le_zpow_right₀ (show (1 : ℚ) ≤ 10 by norm_num) places
    rw [zpow_natCast] at above
    exact le_trans overflow_le_ten_pow (le_trans above lower)
  by_cases small : d.order < -330
  · rw [toBinary64_cases, if_neg some, if_neg large, if_pos small]
    refine rounds_zero ?_
    have below := zpow_le_zpow_right₀ (show (1 : ℚ) ≤ 10 by norm_num)
      (show d.order ≤ -(325 : Nat) by omega)
    rw [zpow_neg, zpow_natCast] at below
    calc d.value * unitsOfOne ≤ (10 ^ 325)⁻¹ * 10 ^ 324 :=
          mul_le_mul (le_trans upper.le below) unitsQ (Nat.cast_nonneg _) (by positivity)
      _ < 1 / 2 := by
        rw [pow_succ, mul_inv, mul_right_comm, inv_mul_cancel₀ (by positivity)]
        norm_num
  · obtain ⟨num, den, pos, ratio, read⟩ :=
      toBinary64_eq negative some (Int.not_lt.mp small) (Int.not_lt.mp large)
    rw [read, ← ratio]
    exact rounds_ofRatio negative pos num

end Geoflow.Binary64

namespace Geoflow.Decimal

open Binary64 (Rounds)

/-- The value of a literal is the one of the digits that it is read as. -/
theorem Literal.value_eq (l : Literal) : l.value = Binary64.signed l.sign.isMinus
    (Binary64.Digits.value ⟨l.decimal.significand, l.decimal.exponent⟩) := by
  rw [value, Binary64.Digits.value]
  congr 1
  change _ = ((Numeral.value (l.whole ++ l.fraction.getD []) : Nat) : ℚ) *
    10 ^ (exponentValue l.exponent - (l.fraction.getD []).length)
  rw [Numeral.value_append, zpow_sub₀ (by norm_num), zpow_natCast]
  push_cast
  field_simp

/-- The double of a literal is its correct rounding. -/
theorem Literal.rounds (l : Literal) : Rounds l.sign.isMinus l.value l.decimal.toBinary64 := by
  rw [l.value_eq]
  exact Binary64.rounds_toBinary64 l.sign.isMinus ⟨l.decimal.significand, l.decimal.exponent⟩

end Geoflow.Decimal
