import Geoflow.Cell.Interval
import Geoflow.Proofs.Numeral
import Geoflow.Proofs.Text.Occurrence

set_option autoImplicit false

namespace Geoflow.Interval

/-- Months, days and microseconds, of any size. -/
structure Span where
  months : Int
  days : Int
  microseconds : Int
  deriving DecidableEq

instance : Zero Span := ⟨0, 0, 0⟩

instance : Add Span :=
  ⟨fun s t => ⟨s.months + t.months, s.days + t.days, s.microseconds + t.microseconds⟩⟩

theorem Span.mk_add_mk (months days micros months' days' micros' : Int) :
    Span.mk months days micros + Span.mk months' days' micros' =
      ⟨months + months', days + days', micros + micros'⟩ := rfl

theorem Span.zero_add (s : Span) : 0 + s = s := by
  change Span.mk (0 + s.months) (0 + s.days) (0 + s.microseconds) = s
  simp only [Int.zero_add]

def quantity? (n : Int) (unit : List Char) : Option Span :=
  if unit = "year".toList ∨ unit = "years".toList then some ⟨12 * n, 0, 0⟩
  else if unit = "mon".toList ∨ unit = "mons".toList then some ⟨n, 0, 0⟩
  else if unit = "day".toList ∨ unit = "days".toList then some ⟨0, n, 0⟩
  else none

def readFraction? (ds : List Char) : Option Nat :=
  if ds.length ≤ 6 then (Numeral.readNat? ds).map fun n => n * 10 ^ (6 - ds.length) else none

def readSeconds? (cs : List Char) : Option Nat :=
  match Text.splitAt '.' cs with
  | [whole] => (Numeral.readNat? whole).map fun seconds => seconds * 1000000
  | [whole, ds] => do
    let seconds ← Numeral.readNat? whole
    let micros ← readFraction? ds
    return seconds * 1000000 + micros
  | _ => none

def readUnsigned? (cs : List Char) : Option Nat :=
  match Text.splitAt ':' cs with
  | [hours, minutes, seconds] => do
    let hours ← Numeral.readNat? hours
    let minutes ← Numeral.readNat? minutes
    let micros ← readSeconds? seconds
    return (hours * 3600 + minutes * 60) * 1000000 + micros
  | _ => none

/-- A minus sign in front of a clock is that of all its parts. -/
def readClock? : List Char → Option Int
  | '-' :: cs => (readUnsigned? cs).map fun n : Nat => -(n : Int)
  | cs => (readUnsigned? cs).map fun n : Nat => (n : Int)

/-- Counts with their units and a clock behind them; what is not there is zero. -/
def readWords? : List (List Char) → Option Span
  | [] => some 0
  | [word] => (readClock? word).map fun micros => ⟨0, 0, micros⟩
  | count :: unit :: rest => do
    let n ← Numeral.readInt? count
    let here ← quantity? n unit
    let behind ← readWords? rest
    return here + behind

def read? (s : String) : Option Span := readWords? (Text.splitAt ' ' s.toList)

def lastWord (s : String) : List Char := (Text.splitAt ' ' s.toList).getLastD []

theorem exists_trimmed (micros : Nat) : ∃ zeros,
    Numeral.padded 6 micros = (fraction micros).drop 1 ++ List.replicate zeros '0' := by
  rw [fraction]
  split
  · rename_i zero
    exact ⟨6, by rw [zero]; decide⟩
  · exact Numeral.exists_trailing (Numeral.padded 6 micros)

theorem fraction_zero : fraction 0 = [] := rfl

theorem fraction_pos {micros : Nat} (pos : 0 < micros) :
    fraction micros = '.' :: (fraction micros).drop 1 := by
  rw [fraction, if_neg (Nat.ne_of_gt pos)]
  rfl

theorem readFraction?_fraction {micros : Nat} (pos : 0 < micros) (small : micros < 1000000) :
    readFraction? ((fraction micros).drop 1) = some micros := by
  obtain ⟨zeros, form⟩ := exists_trimmed micros
  generalize (fraction micros).drop 1 = ds at form ⊢
  have length : ds.length + zeros = 6 := by
    have six : (Numeral.padded 6 micros).length = 6 := Numeral.length_padded (by decide) small
    rwa [form, List.length_append, List.length_replicate] at six
  have value : Numeral.value ds * 10 ^ zeros = micros := by
    have whole := Numeral.value_padded 6 micros
    rwa [form, Numeral.value_append, Numeral.value_zeros, List.length_replicate] at whole
  have nonempty : ds ≠ [] := by
    rintro rfl
    exact Nat.ne_of_lt pos (value ▸ (Nat.zero_mul _).symm)
  have digits : ∀ c ∈ ds, Numeral.isDigit c = true := fun c mem =>
    Numeral.isDigit_of_mem_padded (form ▸ List.mem_append_left _ mem)
  have rest : 6 - ds.length = zeros := by omega
  rw [readFraction?, if_pos (by omega), Numeral.readNat?_eq_some_iff.mpr ⟨nonempty, digits, rfl⟩,
    Option.map_some, rest, value]

theorem isDigit_of_mem_fraction {micros : Nat} {c : Char} (mem : c ∈ (fraction micros).drop 1) :
    Numeral.isDigit c = true := by
  obtain ⟨zeros, form⟩ := exists_trimmed micros
  exact Numeral.isDigit_of_mem_padded (form ▸ List.mem_append_left _ mem)

theorem not_mem_fraction {c : Char} (noPoint : c ≠ '.') (other : Numeral.isDigit c = false)
    (micros : Nat) : c ∉ fraction micros := by
  intro mem
  rcases Nat.eq_zero_or_pos micros with rfl | pos
  · cases mem
  · rw [fraction_pos pos, List.mem_cons] at mem
    rcases mem with point | digit
    · exact noPoint point
    · exact Bool.false_ne_true (other ▸ isDigit_of_mem_fraction digit)

theorem readSeconds?_written (seconds : Nat) {micros : Nat} (small : micros < 1000000) :
    readSeconds? (Numeral.padded 2 seconds ++ fraction micros) =
      some (seconds * 1000000 + micros) := by
  have noPoint : '.' ∉ Numeral.padded 2 seconds := Numeral.not_mem_padded rfl 2 seconds
  rcases Nat.eq_zero_or_pos micros with rfl | pos
  · rw [fraction_zero, List.append_nil, readSeconds?, Text.splitAt_of_not_mem noPoint]
    simp only [Numeral.readNat?_padded, Option.map_some, Nat.add_zero]
  · have noMore : '.' ∉ (fraction micros).drop 1 := fun mem =>
      absurd (isDigit_of_mem_fraction mem) (by decide)
    rw [fraction_pos pos, readSeconds?, Text.splitAt_append, Text.splitAt_of_not_mem noPoint,
      Text.splitAt_of_not_mem noMore]
    simp only [List.singleton_append, Numeral.readNat?_padded, readFraction?_fraction pos small,
      Option.bind_eq_bind, Option.bind_some]
    rfl

theorem clock_natCast (n : Nat) : clock (n : Int) =
    Numeral.padded 2 (n / 1000000 / 3600) ++
      ':' :: (Numeral.padded 2 (n / 1000000 / 60 % 60) ++
        ':' :: (Numeral.padded 2 (n / 1000000 % 60) ++ fraction (n % 1000000))) := by
  have positive : ¬ (n : Int) < 0 := by omega
  simp only [clock, if_neg positive, Int.natAbs_natCast, List.nil_append, List.append_assoc,
    List.cons_append]

/-- A clock below zero is the clock without its sign behind a minus sign. -/
theorem clock_cases (micros : Int) :
    (micros < 0 ∧ clock micros = '-' :: clock (micros.natAbs : Int)) ∨ ∃ n : Nat, micros = n := by
  by_cases negative : micros < 0
  · have positive : ¬ (micros.natAbs : Int) < 0 := by omega
    refine .inl ⟨negative, ?_⟩
    simp only [clock, if_pos negative, if_neg positive, Int.natAbs_natCast, List.nil_append,
      List.cons_append]
  · exact .inr (Int.eq_ofNat_of_zero_le (Int.not_lt.mp negative))

theorem readUnsigned?_clock (n : Nat) : readUnsigned? (clock n) = some n := by
  have noColon : ∀ k, ':' ∉ Numeral.padded 2 k := Numeral.not_mem_padded rfl 2
  have noMore : ':' ∉ Numeral.padded 2 (n / 1000000 % 60) ++ fraction (n % 1000000) := by
    rw [List.mem_append]
    exact not_or.mpr ⟨noColon _, not_mem_fraction (by decide) rfl _⟩
  have below : n % 1000000 < 1000000 := Nat.mod_lt n (by decide)
  have total : (n / 1000000 / 3600 * 3600 + n / 1000000 / 60 % 60 * 60) * 1000000 +
      (n / 1000000 % 60 * 1000000 + n % 1000000) = n := by omega
  rw [clock_natCast, readUnsigned?, Text.splitAt_append, Text.splitAt_append,
    Text.splitAt_of_not_mem (noColon _), Text.splitAt_of_not_mem (noColon _),
    Text.splitAt_of_not_mem noMore]
  simp only [List.singleton_append, Numeral.readNat?_padded, readSeconds?_written _ below,
    Option.bind_eq_bind, Option.bind_some, total]
  rfl

theorem exists_clock_head (n : Nat) : ∃ c cs, clock (n : Int) = c :: cs ∧ c ≠ '-' := by
  have noMinus : '-' ∉ Numeral.padded 2 (n / 1000000 / 3600) := Numeral.not_mem_padded rfl 2 _
  rw [clock_natCast]
  cases hours : Numeral.padded 2 (n / 1000000 / 3600) with
  | nil => exact absurd hours (Numeral.padded_ne_nil _ _)
  | cons c cs =>
    rw [hours] at noMinus
    exact ⟨c, _, rfl, (List.ne_of_not_mem_cons noMinus).symm⟩

theorem readClock?_clock (micros : Int) : readClock? (clock micros) = some micros := by
  rcases clock_cases micros with ⟨negative, form⟩ | ⟨n, rfl⟩
  · have back : -(micros.natAbs : Int) = micros := by omega
    rw [form, readClock?, readUnsigned?_clock, Option.map_some, back]
  · obtain ⟨c, cs, form, unsigned⟩ := exists_clock_head n
    rw [form, readClock?, ← form, readUnsigned?_clock, Option.map_some]
    intro rest same
    exact unsigned (List.cons.inj same).1

theorem clock_head_minus_iff (micros : Int) : (clock micros).head? = some '-' ↔ micros < 0 := by
  rcases clock_cases micros with ⟨negative, form⟩ | ⟨n, rfl⟩
  · rw [form]
    exact iff_of_true rfl negative
  · obtain ⟨c, cs, form, unsigned⟩ := exists_clock_head n
    rw [form, List.head?_cons, Option.some.injEq]
    exact iff_of_false unsigned (by omega)

theorem blank_not_mem_clock (micros : Int) : ' ' ∉ clock micros := by
  have unsigned : ∀ n : Nat, ' ' ∉ clock n := by
    intro n
    have digits : ∀ k, ' ' ∉ Numeral.padded 2 k := Numeral.not_mem_padded rfl 2
    have rest : ' ' ∉ fraction (n % 1000000) := not_mem_fraction (by decide) rfl _
    simp only [clock_natCast, List.mem_append, List.mem_cons, digits, rest, false_or]
    decide
  rcases clock_cases micros with ⟨-, form⟩ | ⟨n, rfl⟩
  · rw [form, List.mem_cons]
    exact not_or.mpr ⟨by decide, unsigned _⟩
  · exact unsigned n

theorem blank_not_mem_ofInt (n : Int) : ' ' ∉ Numeral.ofInt n := by
  have noDigit : ' ' ∉ Numeral.digits n.natAbs := fun mem =>
    Bool.false_ne_true (Numeral.isDigit_of_mem_digits mem)
  rw [Numeral.ofInt]
  split
  · rw [List.mem_cons]
    exact not_or.mpr ⟨by decide, noDigit⟩
  · exact noDigit

/-- The words of parts that are joined, part by part. -/
theorem splitAt_joinParts {parts : List (List Char)} (some : parts ≠ []) :
    Text.splitAt ' ' (joinParts parts) = parts.flatMap (Text.splitAt ' ') := by
  fun_induction joinParts parts with
  | case1 => exact absurd rfl some
  | case2 part => rw [List.flatMap_singleton]
  | case3 part rest more ih => rw [Text.splitAt_append, ih more, List.flatMap_cons]

/-- A part is two words, a count and its unit; a count of zero is not written. -/
theorem words_partOf {unit : List Char} (unbroken : ' ' ∉ unit) (n : Int) :
    (partOf unit n).flatMap (Text.splitAt ' ') =
      if n = 0 then [] else [Numeral.ofInt n, unit ++ if n = 1 then [] else ['s']] := by
  rw [partOf]
  split
  · rfl
  · have noBlank : ' ' ∉ unit ++ if n = 1 then [] else ['s'] := by
      rw [List.mem_append]
      refine not_or.mpr ⟨unbroken, ?_⟩
      split <;> decide
    rw [List.flatMap_singleton, List.append_assoc, List.cons_append, Text.splitAt_append,
      Text.splitAt_of_not_mem (blank_not_mem_ofInt n), Text.splitAt_of_not_mem noBlank,
      List.singleton_append]

theorem parts_ne_nil (i : Interval) : i.parts ≠ [] := by
  intro none
  rw [parts, List.append_eq_nil_iff] at none
  obtain ⟨noDate, noClock⟩ := none
  rw [if_pos (Or.inr (List.isEmpty_iff.mpr noDate))] at noClock
  cases noClock

/-- The clock is one word; only a clock of zero may be missing. -/
def clockWords (i : Interval) : List (List Char) :=
  if i.microseconds.toInt ≠ 0 ∨ i.dateParts.isEmpty then [clock i.microseconds.toInt] else []

theorem words_toText (i : Interval) : Text.splitAt ' ' i.toText.toList =
    i.dateParts.flatMap (Text.splitAt ' ') ++ i.clockWords := by
  have clockPart : (if i.microseconds.toInt ≠ 0 ∨ i.dateParts.isEmpty then
      [clock i.microseconds.toInt] else []).flatMap (Text.splitAt ' ') = i.clockWords := by
    rw [clockWords]
    split
    · rw [List.flatMap_singleton, Text.splitAt_of_not_mem (blank_not_mem_clock _)]
    · rfl
  rw [toText, String.toList_ofList, chars, splitAt_joinParts i.parts_ne_nil, parts,
    List.flatMap_append, clockPart]

theorem readWords?_part {unit : List Char} (unbroken : ' ' ∉ unit) {n : Int} {here : Span}
    (known : quantity? n (unit ++ if n = 1 then [] else ['s']) = some here)
    (zero : n = 0 → here = 0) (rest : List (List Char)) :
    readWords? ((partOf unit n).flatMap (Text.splitAt ' ') ++ rest) =
      (readWords? rest).map (here + ·) := by
  rw [words_partOf unbroken]
  split
  · rename_i none
    simp only [zero none, List.nil_append, Span.zero_add, Option.map_id']
  · rw [List.cons_append, List.cons_append, List.nil_append, readWords?, Numeral.readInt?_ofInt,
      Option.bind_eq_bind, Option.bind_some, known]
    cases readWords? rest <;> rfl

theorem readWords?_clockWords (i : Interval) :
    readWords? i.clockWords = some ⟨0, 0, i.microseconds.toInt⟩ := by
  rw [clockWords]
  split
  · rw [readWords?, readClock?_clock, Option.map_some]
  · rename_i absent
    have zero : i.microseconds.toInt = 0 := Decidable.not_not.mp (not_or.mp absent).1
    rw [zero]
    rfl

theorem read?_toText (i : Interval) :
    read? i.toText = some ⟨i.months.toInt, i.days.toInt, i.microseconds.toInt⟩ := by
  have years : ∀ n : Int, quantity? n ("year".toList ++ if n = 1 then [] else ['s']) =
      some ⟨12 * n, 0, 0⟩ := by
    intro n
    split <;> rfl
  have months : ∀ n : Int, quantity? n ("mon".toList ++ if n = 1 then [] else ['s']) =
      some ⟨n, 0, 0⟩ := by
    intro n
    split <;> rfl
  have days : ∀ n : Int, quantity? n ("day".toList ++ if n = 1 then [] else ['s']) =
      some ⟨0, n, 0⟩ := by
    intro n
    split <;> rfl
  have total := Int.mul_tdiv_add_tmod i.months.toInt 12
  rw [read?, words_toText, dateParts, List.flatMap_append, List.flatMap_append, List.append_assoc,
    List.append_assoc, readWords?_part (by decide) (years _) (by rintro zero; rw [zero]; rfl),
    readWords?_part (by decide) (months _) (by rintro zero; rw [zero]; rfl),
    readWords?_part (by decide) (days _) (by rintro zero; rw [zero]; rfl),
    readWords?_clockWords]
  simp only [Option.map_some, Span.mk_add_mk, Int.add_zero, Int.zero_add, total]

/-- The last word has no minus sign in front. -/
def EndsUnsigned (words : List (List Char)) : Prop := (words.getLastD []).head? ≠ some '-'

theorem EndsUnsigned.append {front back : List (List Char)} (first : EndsUnsigned front)
    (second : EndsUnsigned back) : EndsUnsigned (front ++ back) := by
  rcases List.eq_nil_or_concat back with rfl | ⟨before, last, rfl⟩
  · rwa [List.append_nil]
  · rw [EndsUnsigned, List.concat_eq_append, List.getLastD_concat] at second
    rwa [EndsUnsigned, List.concat_eq_append, ← List.append_assoc, List.getLastD_concat]

theorem endsUnsigned_part {unit : List Char} (unbroken : ' ' ∉ unit)
    (letter : ∀ more, (unit ++ more).head? ≠ some '-') (n : Int) :
    EndsUnsigned ((partOf unit n).flatMap (Text.splitAt ' ')) := by
  rw [words_partOf unbroken]
  split
  · exact nofun
  · exact letter _

theorem endsUnsigned_dateParts (i : Interval) :
    EndsUnsigned (i.dateParts.flatMap (Text.splitAt ' ')) := by
  rw [dateParts, List.flatMap_append, List.flatMap_append]
  refine .append (.append ?years ?months) ?days
  case years => exact endsUnsigned_part (by decide) (fun _ => by simp) _
  case months => exact endsUnsigned_part (by decide) (fun _ => by simp) _
  case days => exact endsUnsigned_part (by decide) (fun _ => by simp) _

theorem lastWord_head_minus_iff (i : Interval) :
    (lastWord i.toText).head? = some '-' ↔ i.microseconds.toInt < 0 := by
  rw [lastWord, words_toText, clockWords]
  split
  · rw [List.getLastD_concat]
    exact clock_head_minus_iff _
  · rename_i absent
    have zero : i.microseconds.toInt = 0 := Decidable.not_not.mp (not_or.mp absent).1
    rw [List.append_nil]
    exact iff_of_false (endsUnsigned_dateParts i) (by omega)

/-- The text of an interval is read as its months, days and microseconds, so it belongs to no other
interval. A clock below zero keeps its sign however short it is, and behind the digits of the
fraction only zeros are missing. -/
theorem toText_keeps_triple (i j : Interval) :
    read? i.toText = some ⟨i.months.toInt, i.days.toInt, i.microseconds.toInt⟩ ∧
      (i.toText = j.toText ↔ i = j) ∧
      ((lastWord i.toText).head? = some '-' ↔ i.microseconds < 0) ∧
      ∃ zeros, Numeral.padded 6 (i.microseconds.toInt.natAbs % 1000000) =
        (fraction (i.microseconds.toInt.natAbs % 1000000)).drop 1 ++
          List.replicate zeros '0' := by
  refine ⟨read?_toText i, ⟨fun same => ?_, congrArg toText⟩, ?_, exists_trimmed _⟩
  · have read := read?_toText i
    rw [same, read?_toText j, Option.some.injEq, Span.mk.injEq] at read
    obtain ⟨months, days, microseconds⟩ := read
    cases i
    cases j
    rw [mk.injEq]
    exact ⟨Int32.toInt_inj.mp months.symm, Int32.toInt_inj.mp days.symm,
      Int64.toInt_inj.mp microseconds.symm⟩
  · rw [lastWord_head_minus_iff, Int64.lt_iff_toInt_lt]
    rfl

/-- The least values of all three parts. -/
example : toText ⟨Int32.minValue, Int32.minValue, Int64.minValue⟩ =
    "-178956970 years -8 mons -2147483648 days -2562047788:00:54.775808" := by
  decide +kernel

end Geoflow.Interval
