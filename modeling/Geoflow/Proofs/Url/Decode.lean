import Mathlib.Data.List.Infix
import Geoflow.Proofs.Text.Hex
import Geoflow.Proofs.Url.Percent

set_option autoImplicit false

namespace Geoflow.Percent

variable {c high low : Char} {cs rest more : List Char} {escaped : Escaped} {b : UInt8}

/-- A percent sign of the text stands in front of two hexadecimal digits. -/
def HasEscape (cs : List Char) : Prop :=
  ∃ high low, ['%', high, low] <:+: cs ∧
    (Hex.charValue? high).isSome = true ∧ (Hex.charValue? low).isSome = true

/-- The octet of two digits in front of a text, and what follows them. -/
def pair? : List Char → Option (UInt8 × List Char)
  | high :: low :: rest =>
    match Hex.charValue? high, Hex.charValue? low with
    | some h, some l => some (UInt8.ofNat (16 * h + l), rest)
    | _, _ => none
  | _ => none

/-- A set of octets that leaves percent signs and digits as they are. -/
structure Escaped.Spares (escaped : Escaped) : Prop where
  percent : escaped 0x25 = false
  digit : ∀ c, (Hex.charValue? c).isSome = true → escaped (ascii c) = false

theorem isSome_charValue?_iff : (Hex.charValue? c).isSome = true ↔
    (48 ≤ c.toNat ∧ c.toNat ≤ 57) ∨ (97 ≤ c.toNat ∧ c.toNat ≤ 102) ∨
      (65 ≤ c.toNat ∧ c.toNat ≤ 70) := by
  unfold Hex.charValue? Hex.codeValue?
  repeat' split
  all_goals
    simp only [Option.isSome_some, Option.isSome_none, Bool.false_eq_true, true_iff, false_iff]
    omega

theorem toNat_lt_of_digit (digit : (Hex.charValue? c).isSome = true) : c.toNat < 128 := by
  have bounds := isSome_charValue?_iff.mp digit
  omega

theorem charValue?_capitalDigit {n : Nat} (small : n < 16) :
    Hex.charValue? (capitalDigit n) = some n := by
  have all : ∀ n < 16, Hex.charValue? (capitalDigit n) = some n := by decide
  exact all n small

theorem pair?_eq_some_iff : pair? cs = some (b, rest) ↔ ∃ high low h l, cs = high :: low :: rest ∧
    Hex.charValue? high = some h ∧ Hex.charValue? low = some l ∧ UInt8.ofNat (16 * h + l) = b := by
  unfold pair?
  split
  · rename_i high low behind
    split
    · rename_i h l highValue lowValue
      simp only [Option.some.injEq, Prod.mk.injEq]
      constructor
      · rintro ⟨octet, rfl⟩
        exact ⟨high, low, h, l, rfl, highValue, lowValue, octet⟩
      · rintro ⟨_, _, h', l', same, highValue', lowValue', octet⟩
        cases same
        cases highValue.symm.trans highValue'
        cases lowValue.symm.trans lowValue'
        exact ⟨octet, rfl⟩
    · rename_i noPair
      simp only [reduceCtorEq, false_iff]
      rintro ⟨_, _, h, l, same, highValue, lowValue, -⟩
      cases same
      exact noPair h l highValue lowValue
  · rename_i short
    simp only [reduceCtorEq, false_iff]
    rintro ⟨high, low, _, _, rfl, -⟩
    exact short high low rest rfl

theorem pair?_isSome_iff : (pair? cs).isSome = true ↔ ∃ high low rest, cs = high :: low :: rest ∧
    (Hex.charValue? high).isSome = true ∧ (Hex.charValue? low).isSome = true := by
  rw [Option.isSome_iff_exists]
  constructor
  · rintro ⟨⟨b, rest⟩, found⟩
    obtain ⟨high, low, h, l, form, highValue, lowValue, -⟩ := pair?_eq_some_iff.mp found
    exact ⟨high, low, rest, form, Option.isSome_of_eq_some highValue,
      Option.isSome_of_eq_some lowValue⟩
  · rintro ⟨high, low, rest, form, highSome, lowSome⟩
    obtain ⟨h, highValue⟩ := Option.isSome_iff_exists.mp highSome
    obtain ⟨l, lowValue⟩ := Option.isSome_iff_exists.mp lowSome
    exact ⟨_, pair?_eq_some_iff.mpr ⟨high, low, h, l, form, highValue, lowValue, rfl⟩⟩

theorem hasEscape_cons : HasEscape (c :: cs) ↔
    (c = '%' ∧ (pair? cs).isSome = true) ∨ HasEscape cs := by
  rw [pair?_isSome_iff]
  constructor
  · rintro ⟨high, low, inside, digits⟩
    rcases List.infix_cons_iff.mp inside with front | later
    · obtain ⟨percent, behind⟩ := List.cons_prefix_cons.mp front
      obtain ⟨rest, form⟩ := behind
      exact .inl ⟨percent.symm, high, low, rest, form.symm, digits⟩
    · exact .inr ⟨high, low, later, digits⟩
  · rintro (⟨rfl, high, low, rest, rfl, digits⟩ | ⟨high, low, inside, digits⟩)
    · exact ⟨high, low, ⟨[], rest, rfl⟩, digits⟩
    · exact ⟨high, low, List.infix_cons inside, digits⟩

theorem not_hasEscape_nil : ¬HasEscape [] := by
  rintro ⟨high, low, inside, -⟩
  cases List.infix_nil.mp inside

instance decidableHasEscape : (cs : List Char) → Decidable (HasEscape cs)
  | [] => .isFalse not_hasEscape_nil
  | _ :: cs =>
    have := decidableHasEscape cs
    decidable_of_iff _ hasEscape_cons.symm

theorem decodeOctets_append (front rest : List UInt8) (plain : ∀ b ∈ front, b ≠ 0x25) :
    decodeOctets (front ++ rest) = front ++ decodeOctets rest := by
  induction front with
  | nil => rfl
  | cons b front ih =>
    obtain ⟨first, later⟩ := List.forall_mem_cons.mp plain
    rw [List.cons_append, decodeOctets, ih later, List.cons_append]
    intro high low more percent
    exact absurd percent first

theorem encodeChar_ne_percent (other : c ≠ '%') : ∀ b ∈ String.utf8EncodeChar c, b ≠ 0x25 := by
  intro b mem percent
  by_cases one : c.toNat < 128
  · rw [Utf8.encodeChar_one one, List.mem_singleton] at mem
    have code := congrArg UInt8.toNat (mem.symm.trans percent)
    rw [Utf8.toNat_ofNat_of_lt (by omega)] at code
    exact other (Char.toNat_inj.mp code)
  · have beyond := Utf8.encodeChar_high (by omega) b mem
    rw [percent] at beyond
    exact absurd beyond (by decide)

theorem octets_cons (other : c ≠ '%') :
    octets (c :: cs) = String.utf8EncodeChar c ++ octets cs := by
  rw [octets, Utf8.encode_cons, decodeOctets_append _ _ (encodeChar_ne_percent other), octets]

/-- A small octet in front of the octets of a text is its first character. -/
theorem exists_of_encode_eq_cons {bytes : List UInt8} (octets : Utf8.encode cs = b :: bytes)
    (small : b.toNat < 128) :
    ∃ rest, cs = Char.ofNat b.toNat :: rest ∧ bytes = Utf8.encode rest := by
  cases cs with
  | nil => cases octets
  | cons c rest =>
    rw [Utf8.encode_cons] at octets
    by_cases one : c.toNat < 128
    · rw [Utf8.encodeChar_one one, List.singleton_append] at octets
      obtain ⟨first, later⟩ := List.cons.inj octets
      have code : b.toNat = c.toNat := by rw [← first, Utf8.toNat_ofNat_of_lt (by omega)]
      exact ⟨rest, by rw [code, Char.ofNat_toNat], later.symm⟩
    · cases spelled : String.utf8EncodeChar c with
      | nil => exact absurd spelled (Utf8.encodeChar_ne_nil c)
      | cons first others =>
        have high := Utf8.encodeChar_high (by omega) first (spelled ▸ List.mem_cons_self)
        rw [spelled, List.cons_append] at octets
        rw [(List.cons.inj octets).1] at high
        omega

theorem digitValue?_ascii (small : c.toNat < 128) :
    Hex.digitValue? (ascii c) = Hex.charValue? c := by
  rw [Hex.digitValue?, ascii, Utf8.toNat_ofNat_of_lt (by omega), Hex.charValue?]

theorem lt_of_digitValue? {n : Nat} (digit : Hex.digitValue? b = some n) : b.toNat < 128 := by
  have bounds := Hex.codeValue?_eq_some_iff.mp digit
  omega

theorem charValue?_ofNat {n : Nat} (digit : Hex.digitValue? b = some n) :
    Hex.charValue? (Char.ofNat b.toNat) = some n := by
  have small := lt_of_digitValue? digit
  rwa [Hex.charValue?, Utf8.toNat_ofNat_char (by omega) (by omega)]

theorem octets_pair (found : pair? cs = some (b, rest)) :
    octets ('%' :: cs) = b :: octets rest := by
  obtain ⟨high, low, h, l, rfl, highValue, lowValue, rfl⟩ := pair?_eq_some_iff.mp found
  have highSmall := toNat_lt_of_digit (Option.isSome_of_eq_some highValue)
  have lowSmall := toNat_lt_of_digit (Option.isSome_of_eq_some lowValue)
  have form : Utf8.encode ('%' :: high :: low :: rest) =
      0x25 :: ascii high :: ascii low :: Utf8.encode rest := by
    rw [Utf8.encode_cons, Utf8.encode_cons, Utf8.encode_cons, Utf8.encodeChar_one highSmall,
      Utf8.encodeChar_one lowSmall]
    rfl
  rw [octets, form, decodeOctets, digitValue?_ascii highSmall, digitValue?_ascii lowSmall,
    highValue, lowValue]
  rfl

theorem octets_lone (alone : pair? cs = none) : octets ('%' :: cs) = 0x25 :: octets cs := by
  have form : Utf8.encode ('%' :: cs) = 0x25 :: Utf8.encode cs := rfl
  rw [octets, form, octets]
  conv_lhs => rw [decodeOctets.eq_def]
  split
  · rename_i high low more same
    obtain ⟨-, behind⟩ := List.cons.inj same
    split
    · rename_i h l highValue lowValue
      obtain ⟨others, rfl, later⟩ := exists_of_encode_eq_cons behind (lt_of_digitValue? highValue)
      obtain ⟨rest, rfl, -⟩ := exists_of_encode_eq_cons later.symm (lt_of_digitValue? lowValue)
      simp [pair?, charValue?_ofNat highValue, charValue?_ofNat lowValue] at alone
    · rw [behind]
  · rename_i same
    obtain ⟨rfl, rfl⟩ := List.cons.inj same
    rfl
  · rename_i same
    cases same

theorem encode_cons (escaped : Escaped) (c : Char) (cs : List Char) : encode escaped (c :: cs) =
    (String.utf8EncodeChar c).flatMap (encodeOctet escaped) ++ encode escaped cs := by
  rw [encode, Utf8.encode_cons, List.flatMap_append, encode]

theorem encode_cons_of_plain (small : c.toNat < 128) (plain : escaped (ascii c) = false) :
    encode escaped (c :: cs) = c :: encode escaped cs := by
  have code : (UInt8.ofNat c.toNat).toNat = c.toNat := Utf8.toNat_ofNat_of_lt (by omega)
  rw [ascii] at plain
  simp only [encode_cons, Utf8.encodeChar_one small, List.flatMap_singleton, encodeOctet, plain,
    Bool.false_eq_true, if_false, code, Char.ofNat_toNat, List.singleton_append]

theorem spares_of_small (percent : escaped 0x25 = false)
    (digits : ∀ n < 128, (Hex.codeValue? n).isSome = true → escaped (UInt8.ofNat n) = false) :
    escaped.Spares where
  percent := percent
  digit c digit := digits c.toNat (toNat_lt_of_digit digit) digit

theorem spares_inPath : Escaped.Spares inPath := spares_of_small (by decide) (by decide)

theorem spares_inUserInfo : Escaped.Spares inUserInfo := spares_of_small (by decide) (by decide)

theorem Escaped.Spares.encode_percent (spares : escaped.Spares) (cs : List Char) :
    encode escaped ('%' :: cs) = '%' :: encode escaped cs :=
  encode_cons_of_plain (by decide) spares.percent

theorem Escaped.Spares.encode_digit (spares : escaped.Spares)
    (digit : (Hex.charValue? c).isSome = true) :
    encode escaped (c :: cs) = c :: encode escaped cs :=
  encode_cons_of_plain (toNat_lt_of_digit digit) (spares.digit c digit)

theorem exists_of_encode_eq_digit (covers : escaped.Covers) (form : encode escaped cs = c :: more)
    (digit : (Hex.charValue? c).isSome = true) : ∃ rest, cs = c :: rest := by
  cases cs with
  | nil => cases form
  | cons first rest =>
    cases spelled : String.utf8EncodeChar first with
    | nil => exact absurd spelled (Utf8.encodeChar_ne_nil first)
    | cons b others =>
      rw [encode_cons, spelled, List.flatMap_cons, encodeOctet] at form
      split at form
      · cases form
        cases digit
      · rename_i plain
        have small := not_lt_of_not_controls
          (Bool.eq_false_iff.mpr fun control => plain (covers b control))
        have front : Utf8.encode (first :: rest) = b :: (others ++ Utf8.encode rest) := by
          rw [Utf8.encode_cons, spelled, List.cons_append]
        obtain ⟨behind, same, -⟩ := exists_of_encode_eq_cons front small
        refine ⟨behind, same.trans ?_⟩
        rw [(List.cons.inj form).1]

/-- Encoding makes and breaks no pair of digits. -/
theorem pair?_encode (covers : escaped.Covers) (spares : escaped.Spares) (cs : List Char) :
    pair? (encode escaped cs) = (pair? cs).map fun found => (found.1, encode escaped found.2) := by
  cases found : pair? cs with
  | some pair =>
    obtain ⟨high, low, h, l, rfl, highValue, lowValue, octet⟩ := pair?_eq_some_iff.mp found
    rw [spares.encode_digit (Option.isSome_of_eq_some highValue),
      spares.encode_digit (Option.isSome_of_eq_some lowValue)]
    exact pair?_eq_some_iff.mpr ⟨high, low, h, l, rfl, highValue, lowValue, octet⟩
  | none =>
    rw [Option.map_none, ← Option.not_isSome_iff_eq_none, pair?_isSome_iff]
    rintro ⟨high, low, rest, form, highSome, lowSome⟩
    obtain ⟨behind, rfl⟩ := exists_of_encode_eq_digit covers form highSome
    rw [spares.encode_digit highSome] at form
    obtain ⟨others, rfl⟩ := exists_of_encode_eq_digit covers (List.cons.inj form).2 lowSome
    have some := pair?_isSome_iff.mpr ⟨high, low, others, rfl, highSome, lowSome⟩
    rw [found] at some
    cases some

theorem octets_encodeOctet (covers : escaped.Covers) (other : b ≠ 0x25) :
    octets (encodeOctet escaped b ++ cs) = b :: octets cs := by
  have bound := b.toNat_lt
  unfold encodeOctet
  split
  · have found : pair? (capitalDigit (b.toNat / 16) :: capitalDigit b.toNat :: cs) =
        some (b, cs) := by
      have low := charValue?_capitalDigit (Nat.mod_lt b.toNat (by omega : 16 > 0))
      rw [capitalDigit_mod] at low
      have value : 16 * (b.toNat / 16) + b.toNat % 16 = b.toNat := by omega
      simp only [pair?, charValue?_capitalDigit (by omega : b.toNat / 16 < 16), low, value,
        UInt8.ofNat_toNat]
    exact octets_pair found
  · rename_i plain
    have small := not_lt_of_not_controls
      (Bool.eq_false_iff.mpr fun control => plain (covers b control))
    have code := Utf8.toNat_ofNat_char (n := b.toNat) (by omega) (by omega)
    have notPercent : Char.ofNat b.toNat ≠ '%' := by
      intro percent
      rw [percent] at code
      exact other (UInt8.toNat_inj.mp code.symm)
    rw [List.singleton_append, octets_cons notPercent, Utf8.encodeChar_one (by omega), code,
      UInt8.ofNat_toNat, List.singleton_append]

theorem octets_encodeOctets (covers : escaped.Covers) {bytes : List UInt8}
    (others : ∀ b ∈ bytes, b ≠ 0x25) :
    octets (bytes.flatMap (encodeOctet escaped) ++ cs) = bytes ++ octets cs := by
  induction bytes with
  | nil => rfl
  | cons b bytes ih =>
    obtain ⟨first, later⟩ := List.forall_mem_cons.mp others
    rw [List.flatMap_cons, List.append_assoc, octets_encodeOctet covers first, ih later,
      List.cons_append]

/-- A text is read one character at a time, but for pairs of digits behind a percent sign. -/
@[elab_as_elim]
theorem reading_induction {motive : List Char → Prop} (nil : motive [])
    (pair : ∀ cs b rest, pair? cs = some (b, rest) → motive rest → motive ('%' :: cs))
    (lone : ∀ cs, pair? cs = none → motive cs → motive ('%' :: cs))
    (other : ∀ c cs, c ≠ '%' → motive cs → motive (c :: cs)) (cs : List Char) : motive cs := by
  induction length : cs.length using Nat.strongRecOn generalizing cs with
  | ind n ih =>
    cases cs with
    | nil => exact nil
    | cons c cs =>
      rw [List.length_cons] at length
      have later := ih cs.length (by omega) cs rfl
      by_cases percent : c = '%'
      · subst percent
        cases found : pair? cs with
        | none => exact lone cs found later
        | some read =>
          obtain ⟨high, low, h, l, rfl, -⟩ := pair?_eq_some_iff.mp found
          rw [List.length_cons, List.length_cons] at length
          exact pair _ _ _ found (ih read.2.length (by omega) read.2 rfl)
      · exact other c cs percent later

/-- Decoding does not see whether a text was encoded. -/
theorem octets_encode (covers : escaped.Covers) (spares : escaped.Spares) (cs : List Char) :
    octets (encode escaped cs) = octets cs := by
  induction cs using reading_induction with
  | nil => rfl
  | pair cs b rest found ih =>
    have encoded := pair?_encode covers spares cs
    rw [found, Option.map_some] at encoded
    rw [spares.encode_percent, octets_pair found, octets_pair encoded, ih]
  | lone cs alone ih =>
    have encoded := pair?_encode covers spares cs
    rw [alone, Option.map_none] at encoded
    rw [spares.encode_percent, octets_lone alone, octets_lone encoded, ih]
  | other c cs notPercent ih =>
    rw [encode_cons, octets_encodeOctets covers (encodeChar_ne_percent notPercent), ih,
      octets_cons notPercent]

theorem length_octets_le (cs : List Char) : (octets cs).length ≤ (Utf8.encode cs).length ∧
    (HasEscape cs → (octets cs).length < (Utf8.encode cs).length) := by
  have percent : ∀ cs, (Utf8.encode ('%' :: cs)).length = (Utf8.encode cs).length + 1 :=
    fun _ => rfl
  induction cs using reading_induction with
  | nil => exact ⟨Nat.le_refl _, fun escape => absurd escape not_hasEscape_nil⟩
  | pair cs b rest found ih =>
    obtain ⟨high, low, h, l, rfl, -⟩ := pair?_eq_some_iff.mp found
    have highSize := List.length_pos_of_ne_nil (Utf8.encodeChar_ne_nil high)
    rw [octets_pair found, percent, Utf8.encode_cons, Utf8.encode_cons, List.length_append,
      List.length_append, List.length_cons]
    omega
  | lone cs alone ih =>
    rw [octets_lone alone, percent, List.length_cons, hasEscape_cons, alone]
    simp only [Option.isSome_none, Bool.false_eq_true, and_false, false_or]
    exact ⟨Nat.succ_le_succ ih.1, fun escape => Nat.succ_lt_succ (ih.2 escape)⟩
  | other c cs notPercent ih =>
    rw [octets_cons notPercent, Utf8.encode_cons, List.length_append, List.length_append,
      hasEscape_cons]
    simp only [notPercent, false_and, false_or]
    exact ⟨Nat.add_le_add_left ih.1 _, fun escape => Nat.add_lt_add_left (ih.2 escape) _⟩

theorem octets_of_not_hasEscape (plain : ¬HasEscape cs) : octets cs = Utf8.encode cs := by
  induction cs using reading_induction with
  | nil => rfl
  | pair cs b rest found ih =>
    exact absurd (hasEscape_cons.mpr (.inl ⟨rfl, Option.isSome_of_eq_some found⟩)) plain
  | lone cs alone ih =>
    rw [octets_lone alone, ih fun later => plain (hasEscape_cons.mpr (.inr later))]
    rfl
  | other c cs notPercent ih =>
    rw [octets_cons notPercent, ih fun later => plain (hasEscape_cons.mpr (.inr later)),
      Utf8.encode_cons]

theorem decode_eq_ok_iff : decode cs = .ok rest ↔ octets cs = Utf8.encode rest :=
  Utf8.decode_eq_ok_iff

/-- Decoding keeps a text exactly if it has no escape. -/
theorem decode_self_iff : decode cs = .ok cs ↔ ¬HasEscape cs := by
  rw [decode_eq_ok_iff]
  constructor
  · intro same escape
    have shorter := (length_octets_le cs).2 escape
    rw [same] at shorter
    omega
  · exact octets_of_not_hasEscape

theorem decode_encode (covers : escaped.Covers) (spares : escaped.Spares) (cs : List Char) :
    decode (encode escaped cs) = decode cs := by
  rw [decode, octets_encode covers spares, decode]

end Geoflow.Percent
