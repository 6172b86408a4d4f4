import Geoflow.Proofs.Binary64.Literal
import Geoflow.Proofs.Text.Hex
import Geoflow.Proofs.Text.Utf8
import Geoflow.Row.Value

set_option autoImplicit false

namespace Geoflow.SqlValue

open Decimal (Literal Sign)
open Binary64 (Rounds)

/-- The longest decimal literal that a text starts with. -/
structure IsLongest (cs : List Char) (l : Literal) : Prop where
  starts : l.chars <+: cs
  longest : ∀ other : Literal, other.chars <+: cs → other.chars.length ≤ l.chars.length

/-- The names of infinity and NaN, in any letter case. -/
def isName (name : List Char) : Bool :=
  ["inf".toList, "infinity".toList, "nan".toList].contains (name.map Char.toLower)

/-- The characters at the start of a text that a number may be made of. All of them are ASCII, so
each front part of them ends between characters. -/
def candidate (cs : List Char) : List Char := cs.takeWhile isNumberChar

/-- The front part of a text that so many octets spell, if its end is not inside a character. -/
def slice? (cs : List Char) (octets : Nat) : Option (List Char) :=
  (Utf8.decode ((Utf8.encode cs).take octets)).toOption

/-- A coercion that reads the number at the start of a text. -/
structure ReadsLeading (cs : List Char) (x : Binary64) : Prop where
  /-- There is a longest literal in front, unless there is none at all. -/
  front : (∀ l : Literal, ¬ l.chars <+: Text.trimmed cs) ∨ ∃ l, IsLongest (Text.trimmed cs) l
  absent : (∀ l : Literal, ¬ l.chars <+: Text.trimmed cs) → x = .zero false
  named : ∀ (sign : Sign) (name : List Char), isName name = true →
    Text.trimmed cs = sign.chars ++ name → x = .zero false
  leading : ∀ l, IsLongest (Text.trimmed cs) l →
    ∃ y, (∀ z, Rounds l.sign.isMinus l.value z ↔ z = y) ∧ (y.isFinite = true → x = y)
  /-- The first character of another kind stands at an octet of the same number. -/
  width : (Utf8.encode (candidate (Text.trimmed cs))).length = (candidate (Text.trimmed cs)).length
  slices : ∀ octets ≤ (Utf8.encode (candidate (Text.trimmed cs))).length,
    slice? (Text.trimmed cs) octets = some ((Text.trimmed cs).take octets)

variable {cs : List Char} {c : Char} {l : Literal} {sign : Sign} {name : List Char}

theorem isNumberChar_iff : isNumberChar c = true ↔
    Numeral.isDigit c = true ∨ c = '+' ∨ c = '-' ∨ c = '.' ∨ c = 'e' ∨ c = 'E' := by
  simp [isNumberChar, or_assoc]

theorem isNumberChar_of_mem_sign (mem : c ∈ sign.chars) : isNumberChar c = true := by
  cases sign with
  | absent => cases mem
  | plus =>
    rw [List.mem_singleton.mp mem]
    decide
  | minus =>
    rw [List.mem_singleton.mp mem]
    decide

theorem isNumberChar_of_mem_fraction {fraction : Option (List Char)}
    (allDigits : ∀ c ∈ fraction.getD [], Numeral.isDigit c = true)
    (mem : c ∈ Decimal.fractionChars fraction) : isNumberChar c = true := by
  cases fraction with
  | none => cases mem
  | some ds =>
    obtain rfl | mem := List.mem_cons.mp mem
    · decide
    · exact isNumberChar_iff.mpr (.inl (allDigits c mem))

theorem isNumberChar_of_mem_exponent {exponent : Option Decimal.ExponentPart}
    (mem : c ∈ Decimal.exponentChars exponent) : isNumberChar c = true := by
  cases exponent with
  | none => cases mem
  | some part =>
    obtain rfl | mem := List.mem_cons.mp mem
    · obtain mark | mark := part.isMark <;> rw [mark] <;> decide
    · obtain mem | mem := List.mem_append.mp mem
      · exact isNumberChar_of_mem_sign mem
      · exact isNumberChar_iff.mpr (.inl (part.allDigits c mem))

theorem isNumberChar_of_mem_literal (mem : c ∈ l.chars) : isNumberChar c = true := by
  obtain mem | mem := List.mem_append.mp mem
  · exact isNumberChar_of_mem_sign mem
  obtain mem | mem := List.mem_append.mp mem
  · exact isNumberChar_iff.mpr (.inl (l.wholeDigits c mem))
  obtain mem | mem := List.mem_append.mp mem
  · exact isNumberChar_of_mem_fraction l.fractionDigits mem
  · exact isNumberChar_of_mem_exponent mem

theorem length_literal_pos (l : Literal) : 0 < l.chars.length := by
  obtain ⟨c, rest, starts, -⟩ := l.unsignedChars_head
  rw [Literal.chars, List.length_append, starts, List.length_cons]
  omega

/-- No literal goes on behind the candidate. -/
theorem length_le_candidate (starts : l.chars <+: cs) :
    l.chars.length ≤ (candidate cs).length := by
  obtain ⟨rest, rfl⟩ := starts
  rw [candidate, List.takeWhile_append_of_pos fun c mem => isNumberChar_of_mem_literal mem,
    List.length_append]
  omega

theorem IsLongest.chars_eq {other : Literal} (first : IsLongest cs l)
    (second : IsLongest cs other) : l.chars = other.chars := by
  have length := Nat.le_antisymm (second.longest l first.starts) (first.longest other second.starts)
  rw [List.prefix_iff_eq_take.mp first.starts, List.prefix_iff_eq_take.mp second.starts, length]

theorem IsLongest.decimal_eq {other : Literal} (first : IsLongest cs l)
    (second : IsLongest cs other) : l.decimal = other.decimal := by
  have read := l.read?_chars
  rw [first.chars_eq second, other.read?_chars] at read
  exact (Option.some.inj read).symm

/-- The search finds the longest literal within its bound, if there is one. -/
theorem leadingDecimal?_spec (cs : List Char) (n : Nat) :
    match leadingDecimal? cs n with
    | none => ∀ l : Literal, l.chars <+: cs → n < l.chars.length
    | some d => ∃ l : Literal, l.chars <+: cs ∧ l.decimal = d ∧
        ∀ other : Literal, other.chars <+: cs → other.chars.length ≤ n →
          other.chars.length ≤ l.chars.length := by
  induction n with
  | zero => exact fun l _ => length_literal_pos l
  | succ n ih =>
    rw [leadingDecimal?]
    cases read : Decimal.read? (cs.take (n + 1)) with
    | some d =>
      obtain ⟨l, chars, decimal⟩ := Decimal.exists_literal_of_read? read
      refine ⟨l, chars ▸ List.take_prefix _ _, decimal, fun other starts short => ?_⟩
      have within := starts.length_le
      rw [chars, List.length_take]
      omega
    | none =>
      -- A literal of length `n + 1` would have been read.
      have shorter : ∀ l : Literal, l.chars <+: cs → l.chars.length ≠ n + 1 := by
        intro l starts length
        have taken := List.prefix_iff_eq_take.mp starts
        rw [length] at taken
        rw [← taken, l.read?_chars] at read
        cases read
      dsimp only
      split at ih
      · exact fun l starts => Nat.lt_of_le_of_ne (ih l starts) (shorter l starts).symm
      · obtain ⟨l, starts, decimal, longest⟩ := ih
        refine ⟨l, starts, decimal, fun other begins bound => longest other begins ?_⟩
        have different := shorter other begins
        omega

theorem leadingDecimal?_candidate (cs : List Char) :
    match leadingDecimal? cs (candidate cs).length with
    | none => ∀ l : Literal, ¬ l.chars <+: cs
    | some d => ∃ l, IsLongest cs l ∧ l.decimal = d := by
  have found := leadingDecimal?_spec cs (candidate cs).length
  split at found
  · exact fun l starts => absurd (length_le_candidate starts) (Nat.not_le.mpr (found l starts))
  · obtain ⟨l, starts, decimal, longest⟩ := found
    exact ⟨l, ⟨starts, fun other begins => longest other begins (length_le_candidate begins)⟩,
      decimal⟩

theorem isName_iff : isName name = true ↔ name.map Char.toLower = "inf".toList ∨
    name.map Char.toLower = "infinity".toList ∨ name.map Char.toLower = "nan".toList := by
  simp [isName]

/-- A name starts with a letter, and no literal does. -/
theorem exists_head_of_isName (named : isName name = true) :
    ∃ c rest, name = c :: rest ∧ isNumberChar c = false := by
  have lowered := isName_iff.mp named
  have letter : ∃ c rest, name = c :: rest ∧ (c.toLower = 'i' ∨ c.toLower = 'n') := by
    cases name with
    | nil => exact absurd lowered (by decide)
    | cons c rest =>
      refine ⟨c, rest, rfl, ?_⟩
      obtain same | same | same := lowered
      · exact .inl (List.cons.inj same).1
      · exact .inl (List.cons.inj same).1
      · exact .inr (List.cons.inj same).1
  obtain ⟨c, rest, rfl, small⟩ := letter
  refine ⟨c, rest, rfl, Bool.eq_false_iff.mpr fun inNumber => ?_⟩
  obtain digit | rfl | rfl | rfl | rfl | rfl := isNumberChar_iff.mp inNumber
  · have below : c.toNat ≤ 57 := (Bool.and_eq_true_iff.mp digit).2 |> of_decide_eq_true
    have code := Hex.toNat_toLower c
    rw [if_neg (by omega)] at code
    obtain same | same := small <;> rw [same] at code
    · exact absurd (code ▸ below) (by decide)
    · exact absurd (code ▸ below) (by decide)
  all_goals exact absurd small (by decide)

theorem not_starts_of_isName (named : isName name = true) (l : Literal) :
    ¬ l.chars <+: sign.chars ++ name := by
  obtain ⟨c, rest, rfl, none⟩ := exists_head_of_isName named
  intro starts
  have taken : candidate (sign.chars ++ c :: rest) = sign.chars := by
    rw [candidate, List.takeWhile_append_of_pos fun c mem => isNumberChar_of_mem_sign mem,
      List.takeWhile_cons_of_neg (by simp [none]), List.append_nil]
  have short := length_le_candidate starts
  rw [taken] at short
  have inside := List.prefix_of_prefix_length_le starts (List.prefix_append _ _) short
  have some := length_literal_pos l
  -- What is left is a sign alone, and that is no literal.
  have alone : Decimal.read? sign.chars = Option.none := by cases sign <;> decide
  have whole : l.chars = sign.chars := by
    refine inside.eq_of_length (Nat.le_antisymm short ?_)
    have single : sign.chars.length ≤ 1 := by cases sign <;> decide
    omega
  rw [← whole, l.read?_chars] at alone
  cases alone

theorem exists_name_of_readSpecial? {x : Binary64} (read : Binary64.readSpecial? cs = some x) :
    (∃ (sign : Sign) (name : List Char), isName name = true ∧ cs = sign.chars ++ name) ∧
      x.isFinite = false := by
  have assemble : ∀ (sign : Sign) (name : List Char),
      (if name.map Char.toLower = "inf".toList ∨ name.map Char.toLower = "infinity".toList then
        some (Binary64.infinity sign.isMinus)
      else if name.map Char.toLower = "nan".toList then
        some (.ofMagnitude sign.isMinus (Binary64.infinityBits + Nat.pow 2 51))
      else none) = some x → isName name = true ∧ x.isFinite = false := by
    intro sign name read
    split at read
    · rename_i spelled
      cases read
      exact ⟨isName_iff.mpr (spelled.imp_right .inl), by cases sign <;> decide⟩
    · split at read
      · rename_i spelled
        cases read
        exact ⟨isName_iff.mpr (.inr (.inr spelled)), by cases sign <;> decide⟩
      · cases read
  unfold Binary64.readSpecial? at read
  split at read
  rename_i negative name parts
  split at parts
  · cases parts
    obtain ⟨named, infinite⟩ := assemble .minus _ read
    exact ⟨⟨.minus, _, named, rfl⟩, infinite⟩
  · cases parts
    obtain ⟨named, infinite⟩ := assemble .plus _ read
    exact ⟨⟨.plus, _, named, rfl⟩, infinite⟩
  · cases parts
    obtain ⟨named, infinite⟩ := assemble .absent _ read
    exact ⟨⟨.absent, _, named, rfl⟩, infinite⟩

theorem toNat_lt_of_isNumberChar (inNumber : isNumberChar c = true) : c.toNat < 128 := by
  obtain digit | rfl | rfl | rfl | rfl | rfl := isNumberChar_iff.mp inNumber
  · have below : c.toNat ≤ 57 := of_decide_eq_true (Bool.and_eq_true_iff.mp digit).2
    omega
  all_goals decide

/-- Characters of numbers are spelled by one octet each. -/
theorem encode_of_number (inNumber : ∀ c ∈ cs, isNumberChar c = true) :
    Utf8.encode cs = cs.map fun c => UInt8.ofNat c.toNat := by
  induction cs with
  | nil => rfl
  | cons c cs ih =>
    obtain ⟨first, others⟩ := List.forall_mem_cons.mp inNumber
    rw [Utf8.encode_cons, Utf8.encodeChar_one (toNat_lt_of_isNumberChar first), ih others]
    rfl

theorem encode_candidate (cs : List Char) :
    Utf8.encode (candidate cs) = (candidate cs).map fun c => UInt8.ofNat c.toNat :=
  encode_of_number fun _ mem => List.mem_takeWhile_imp mem

/-- Octets in front of the first character of another kind end between characters. -/
theorem slice?_of_le {octets : Nat} (within : octets ≤ (Utf8.encode (candidate cs)).length) :
    slice? cs octets = some (cs.take octets) := by
  have parts : candidate cs ++ cs.dropWhile isNumberChar = cs := List.takeWhile_append_dropWhile
  have ascii := encode_candidate cs
  rw [ascii, List.length_map] at within
  have taken : cs.take octets = (candidate cs).take octets := by
    rw [← parts, List.take_append_of_le_length within, parts]
  have octetsTaken : (Utf8.encode cs).take octets = Utf8.encode (cs.take octets) := by
    have front : Utf8.encode cs = Utf8.encode (candidate cs) ++
        Utf8.encode (cs.dropWhile isNumberChar) := by
      conv_lhs => rw [← parts]
      exact List.flatMap_append
    have inFront : ∀ c ∈ (candidate cs).take octets, isNumberChar c = true := fun c mem =>
      List.mem_takeWhile_imp (List.mem_of_mem_take mem)
    rw [front, taken, List.take_append_of_le_length (by rw [ascii, List.length_map]; exact within),
      ascii, encode_of_number inFront, List.map_take]
  rw [slice?, octetsTaken, Utf8.decode_eq_ok_iff.mpr rfl]
  rfl

/-- Without a literal in front the coercion gives zero; with one it gives the double of the longest,
except that a text that is an infinite literal as a whole gives zero. -/
theorem parseLenient_cases (cs : List Char) :
    ((∀ l : Literal, ¬ l.chars <+: Text.trimmed cs) ∧ parseLenient cs = .zero false) ∨
      ∃ l, IsLongest (Text.trimmed cs) l ∧ parseLenient cs =
        if l.chars = Text.trimmed cs ∧ l.decimal.toBinary64.isFinite = false then .zero false
        else l.decimal.toBinary64 := by
  unfold parseLenient
  dsimp only
  generalize Text.trimmed cs = t
  rw [Binary64.read?]
  cases whole : Decimal.read? t with
  | some d =>
    obtain ⟨l, rfl, rfl⟩ := Decimal.exists_literal_of_read? whole
    refine .inr ⟨l, ⟨List.prefix_rfl, fun other starts => starts.length_le⟩, ?_⟩
    dsimp only
    cases finite : l.decimal.toBinary64.isFinite
    · rw [if_neg (by decide), if_pos ⟨rfl, rfl⟩]
    · rw [if_pos rfl, if_neg (by simp)]
  | none =>
    dsimp only
    cases special : Binary64.readSpecial? t with
    | some x =>
      obtain ⟨⟨sign, name, named, rfl⟩, infinite⟩ := exists_name_of_readSpecial? special
      refine .inl ⟨not_starts_of_isName named, ?_⟩
      dsimp only
      rw [if_neg (Bool.eq_false_iff.mp infinite)]
    | none =>
      dsimp only
      have search := leadingDecimal?_candidate t
      rw [candidate] at search
      split at search
      · rename_i found
        rw [found]
        exact .inl ⟨search, rfl⟩
      · rename_i d found
        rw [found]
        obtain ⟨l, longest, rfl⟩ := search
        refine .inr ⟨l, longest, ?_⟩
        rw [if_neg]
        rintro ⟨rfl, -⟩
        rw [l.read?_chars] at whole
        cases whole

/-- A text is coerced to the number at its start. -/
theorem parseLenient_readsLeading (cs : List Char) : ReadsLeading cs (parseLenient cs) := by
  have unlike : ∀ l, IsLongest (Text.trimmed cs) l →
      ¬ ∀ l : Literal, ¬ l.chars <+: Text.trimmed cs :=
    fun l longest absent => absent l longest.starts
  have zero : (∀ l : Literal, ¬ l.chars <+: Text.trimmed cs) → parseLenient cs = .zero false := by
    intro absent
    obtain ⟨-, value⟩ | ⟨l, longest, -⟩ := parseLenient_cases cs
    · exact value
    · exact absurd absent (unlike l longest)
  exact {
    front := by
      obtain ⟨absent, -⟩ | ⟨l, longest, -⟩ := parseLenient_cases cs
      · exact .inl absent
      · exact .inr ⟨l, longest⟩
    absent := zero
    named := by
      intro sign name named parts
      exact zero (parts ▸ not_starts_of_isName named)
    leading := by
      intro l longest
      refine ⟨l.decimal.toBinary64, fun z => ⟨fun rounds => rounds.unique l.rounds, ?_⟩, ?_⟩
      · rintro rfl
        exact l.rounds
      · intro finite
        obtain ⟨absent, -⟩ | ⟨other, otherLongest, value⟩ := parseLenient_cases cs
        · exact absurd absent (unlike l longest)
        · rw [value, ← longest.decimal_eq otherLongest, if_neg (by simp [finite])]
    width := by rw [encode_candidate, List.length_map]
    slices := fun octets within => slice?_of_le within }

def degrees : Literal :=
  ⟨.absent, ['1', '2'], some ['5'], none, List.all_eq_true.mp rfl, List.all_eq_true.mp rfl, nofun⟩

theorem parseLenient_readsLeading_degrees :
    IsLongest (Text.trimmed " 12.5° east".toList) degrees ∧
      parseLenient " 12.5° east".toList = .ofRatio false 25 2 := by
  have longest : IsLongest (Text.trimmed " 12.5° east".toList) degrees :=
    ⟨by decide, fun other starts => length_le_candidate starts⟩
  obtain ⟨y, rounded, value⟩ := (parseLenient_readsLeading " 12.5° east".toList).leading _ longest
  have same := (rounded _).mp degrees.rounds
  have double : degrees.decimal.toBinary64 = .ofRatio false 25 2 := by decide +kernel
  rw [double] at same
  rw [← same] at value
  exact ⟨longest, value (by decide +kernel)⟩

/-- An exponent that has no digits is not read, and what follows may be of any kind. -/
example : parseLenient " 7e°".toList = .ofInt 7 := by decide +kernel

end Geoflow.SqlValue
