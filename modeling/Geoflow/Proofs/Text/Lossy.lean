import Geoflow.Proofs.Text.Utf8

set_option autoImplicit false

namespace Geoflow.Utf8

variable {a b c d : UInt8} {bytes front rest more : List UInt8} {cs : List Char} {char : Char}

/-- Octets with which a character begins. -/
def Begins (front : List UInt8) : Prop := ∃ char, front <+: String.utf8EncodeChar char

/-- Octets in front of others that are replaced by one character: no character stands there, and no
longer run could have begun one. An octet with which no character begins stands alone. -/
structure IsStray (front rest : List UInt8) : Prop where
  nonempty : front ≠ []
  noChar : ∀ char, ¬ String.utf8EncodeChar char <+: front ++ rest
  begins : front.length = 1 ∨ Begins front
  longest : ∀ more, more ≠ [] → more <+: rest → ¬ Begins (front ++ more)

/-- A text that octets stand for once their strays are replaced. The rule determines the text,
whatever reader follows it. -/
inductive Lossy : List UInt8 → List Char → Prop
  | nil : Lossy [] []
  | char (char : Char) {rest : List UInt8} {cs : List Char} (later : Lossy rest cs) :
      Lossy (String.utf8EncodeChar char ++ rest) (char :: cs)
  | stray {front rest : List UInt8} {cs : List Char} (stray : IsStray front rest)
      (later : Lossy rest cs) : Lossy (front ++ rest) ('\uFFFD' :: cs)

theorem Begins.of_append (begins : Begins (front ++ more)) : Begins front := by
  obtain ⟨char, inChar⟩ := begins
  exact ⟨char, (List.prefix_append front more).trans inChar⟩

/-- Of two strays at one place neither goes on behind the other. -/
theorem IsStray.longest_eq (stray : IsStray front (more ++ rest))
    (other : IsStray (front ++ more) rest) : more = [] := by
  cases more with
  | nil => rfl
  | cons first others =>
    rcases other.begins with one | begins
    · have front_pos := List.length_pos_iff.mpr stray.nonempty
      rw [List.length_append, List.length_cons] at one
      omega
    · exact absurd begins
        (stray.longest _ (List.cons_ne_nil first others) (List.prefix_append _ rest))

theorem IsStray.unique {front' rest' : List UInt8} (stray : IsStray front rest)
    (other : IsStray front' rest') (same : front ++ rest = front' ++ rest') :
    front = front' ∧ rest = rest' := by
  rcases List.append_eq_append_iff.mp same with ⟨more, rfl, rfl⟩ | ⟨more, rfl, rfl⟩
  · rw [stray.longest_eq other]
    simp
  · rw [other.longest_eq stray]
    simp

theorem char_unique {char' : Char} {rest' : List UInt8}
    (same : String.utf8EncodeChar char ++ rest = String.utf8EncodeChar char' ++ rest') :
    char = char' ∧ rest = rest' := by
  have read := scan_encodeChar char rest
  rw [same, scan_encodeChar] at read
  obtain ⟨chars, -⟩ := List.cons.inj read
  cases chars
  exact ⟨rfl, List.append_cancel_left same⟩

theorem Lossy.unique {cs' : List Char} (lossy : Lossy bytes cs) (other : Lossy bytes cs') :
    cs = cs' := by
  induction lossy generalizing cs' with
  | nil =>
    generalize empty : ([] : List UInt8) = bytes at other
    cases other with
    | nil => rfl
    | char char => exact absurd (List.append_eq_nil_iff.mp empty.symm).1 (encodeChar_ne_nil char)
    | stray stray => exact absurd (List.append_eq_nil_iff.mp empty.symm).1 stray.nonempty
  | @char char rest cs later ih =>
    generalize same : String.utf8EncodeChar char ++ rest = bytes at other
    cases other with
    | nil => exact absurd (List.append_eq_nil_iff.mp same).1 (encodeChar_ne_nil char)
    | char char' later' =>
      obtain ⟨rfl, rfl⟩ := char_unique same
      rw [ih later']
    | stray stray => exact absurd (same ▸ List.prefix_append _ rest) (stray.noChar char)
  | @stray front rest cs stray later ih =>
    generalize same : front ++ rest = bytes at other
    cases other with
    | nil => exact absurd (List.append_eq_nil_iff.mp same).1 stray.nonempty
    | char char' => exact absurd (same ▸ List.prefix_append _ _) (stray.noChar char')
    | stray stray' later' =>
      obtain ⟨rfl, rfl⟩ := stray.unique stray' same
      rw [ih later']

/-- Octets that are read as a stray whatever follows them. -/
def Breaks (front : List UInt8) : Prop :=
  ∀ rest, ∃ count cut later, scan (front ++ rest) = .stray count cut :: later

theorem not_prefix_of_stray {count : Nat} {cut : Bool} {later : List Symbol}
    (read : scan bytes = .stray count cut :: later) : ¬ String.utf8EncodeChar char <+: bytes := by
  rintro ⟨rest, rfl⟩
  rw [scan_encodeChar] at read
  cases read

theorem Breaks.not_begins (breaks : Breaks front) : ¬ Begins front := by
  rintro ⟨char, rest, whole⟩
  obtain ⟨count, cut, later, read⟩ := breaks rest
  rw [whole] at read
  exact not_prefix_of_stray read (List.prefix_refl _)

theorem IsStray.of_breaks (nonempty : front ≠ []) (begins : front.length = 1 ∨ Begins front)
    (breaks : Breaks (front ++ [b])) : IsStray front (b :: rest) where
  nonempty := nonempty
  noChar := by
    intro char
    obtain ⟨count, cut, later, read⟩ := breaks rest
    rw [List.append_assoc, List.singleton_append] at read
    exact not_prefix_of_stray read
  begins := begins
  longest := by
    intro more nonempty inRest
    obtain ⟨first, others, rfl⟩ := List.exists_cons_of_ne_nil nonempty
    obtain ⟨rfl, -⟩ := List.cons_prefix_cons.mp inRest
    intro further
    rw [List.append_cons] at further
    exact breaks.not_begins further.of_append

theorem IsStray.of_cut {count : Nat} {cut : Bool} {later : List Symbol} (nonempty : front ≠ [])
    (begins : front.length = 1 ∨ Begins front) (read : scan front = .stray count cut :: later) :
    IsStray front [] where
  nonempty := nonempty
  noChar := by
    intro char
    rw [List.append_nil]
    exact not_prefix_of_stray read
  begins := begins
  longest := fun _ further none => absurd (List.prefix_nil.mp none) further

theorem IsStray.of_lead (breaks : Breaks [a]) : IsStray [a] rest where
  nonempty := List.cons_ne_nil a []
  noChar := by
    intro char
    obtain ⟨count, cut, later, read⟩ := breaks rest
    exact not_prefix_of_stray read
  begins := Or.inl rfl
  longest := fun _ _ _ further => breaks.not_begins further.of_append

theorem breaks_lead (high : 128 ≤ a.toNat) (noLead : a.toNat < 194 ∨ 244 < a.toNat) :
    Breaks [a] := by
  intro rest
  refine ⟨1, false, scan rest, ?_⟩
  rw [List.singleton_append, scan.eq_def]
  simp only [UInt8.lt_iff_toNat_lt, UInt8.le_iff_toNat_le, Bool.and_eq_true, decide_eq_true_eq,
    UInt8.reduceToNat]
  rw [if_neg (by omega), if_neg (by omega), if_neg (by omega), if_neg (by omega)]

theorem breaks_two (lower : 194 ≤ a.toNat) (upper : a.toNat ≤ 223) (noTail : ¬ isTail b = true) :
    Breaks [a, b] := by
  intro rest
  refine ⟨1, false, scan (b :: rest), ?_⟩
  rw [List.cons_append, scan_lead_two lower upper]
  exact if_neg noTail

theorem breaks_second (lower : 224 ≤ a.toNat) (upper : a.toNat ≤ 244)
    (noSecond : ¬ isSecond a b = true) : Breaks [a, b] := by
  intro rest
  refine ⟨1, false, scan (b :: rest), ?_⟩
  rw [List.cons_append]
  by_cases three : a.toNat ≤ 239
  · rw [scan_lead_three lower three]
    exact if_neg noSecond
  · rw [scan_lead_four (by omega) upper]
    exact if_neg noSecond

theorem breaks_third (lower : 224 ≤ a.toNat) (upper : a.toNat ≤ 244) (second : isSecond a b = true)
    (noTail : ¬ isTail c = true) : Breaks [a, b, c] := by
  intro rest
  refine ⟨2, false, scan (c :: rest), ?_⟩
  rw [List.cons_append]
  by_cases three : a.toNat ≤ 239
  · rw [scan_lead_three lower three]
    exact (if_pos second).trans (if_neg noTail)
  · rw [scan_lead_four (by omega) upper]
    exact (if_pos second).trans (if_neg noTail)

theorem breaks_fourth (lower : 240 ≤ a.toNat) (upper : a.toNat ≤ 244)
    (second : isSecond a b = true) (third : isTail c = true) (noTail : ¬ isTail d = true) :
    Breaks [a, b, c, d] := by
  intro rest
  refine ⟨3, false, scan (d :: rest), ?_⟩
  rw [List.cons_append, scan_lead_four lower upper]
  exact ((if_pos second).trans (if_pos third)).trans (if_neg noTail)

theorem scan_cut_lead (lower : 194 ≤ a.toNat) (upper : a.toNat ≤ 244) :
    scan [a] = [.stray 1 true] := by
  by_cases two : a.toNat ≤ 223
  · exact scan_lead_two lower two []
  · by_cases three : a.toNat ≤ 239
    · exact scan_lead_three (by omega) three []
    · exact scan_lead_four (by omega) upper []

theorem scan_cut_second (lower : 224 ≤ a.toNat) (upper : a.toNat ≤ 244)
    (second : isSecond a b = true) : scan [a, b] = [.stray 2 true] := by
  by_cases three : a.toNat ≤ 239
  · exact (scan_lead_three lower three [b]).trans (if_pos second)
  · exact (scan_lead_four (by omega) upper [b]).trans (if_pos second)

theorem scan_cut_third (lower : 240 ≤ a.toNat) (upper : a.toNat ≤ 244)
    (second : isSecond a b = true) (third : isTail c = true) :
    scan [a, b, c] = [.stray 3 true] := by
  rw [scan_lead_four lower upper]
  exact (if_pos second).trans (if_pos third)

theorem isTail_least : isTail 0x80 = true := by decide

theorem begins_second (lower : 224 ≤ a.toNat) (upper : a.toNat ≤ 244)
    (second : isSecond a b = true) : Begins [a, b] := by
  by_cases three : a.toNat ≤ 239
  · exact ⟨_, [0x80], (encodeChar_scan_three lower three second isTail_least).symm⟩
  · exact ⟨_, [0x80, 0x80],
      (encodeChar_scan_four (by omega) upper second isTail_least isTail_least).symm⟩

theorem begins_third (lower : 240 ≤ a.toNat) (upper : a.toNat ≤ 244)
    (second : isSecond a b = true) (third : isTail c = true) : Begins [a, b, c] :=
  ⟨_, [0x80], (encodeChar_scan_four lower upper second third isTail_least).symm⟩

/-- A character in front of octets that are read by the rule. The code of the character stays a
variable here: it is a sum that must not be computed. -/
theorem lossy_char (spelled : String.utf8EncodeChar char = front)
    (later : Lossy rest ((scan rest).map fun s => s.char?.getD '\uFFFD')) :
    Lossy (front ++ rest) ((.char char :: scan rest).map fun s => s.char?.getD '\uFFFD') := by
  rw [← spelled]
  exact .char char later

theorem lossy_cut {count : Nat} (nonempty : front ≠ []) (begins : front.length = 1 ∨ Begins front)
    (read : scan front = [.stray count true]) : Lossy front ['\uFFFD'] := by
  rw [← List.append_nil front]
  exact .stray (.of_cut nonempty begins read) .nil

theorem lossy_broken (front : List UInt8) (nonempty : front ≠ [])
    (begins : front.length = 1 ∨ Begins front) (breaks : Breaks (front ++ [b]))
    (later : Lossy (b :: rest) cs) : Lossy (front ++ b :: rest) ('\uFFFD' :: cs) :=
  .stray (.of_breaks nonempty begins breaks) later

/-- The text of the reader follows the rule. -/
theorem lossy_decodeLossy (bytes : List UInt8) : Lossy bytes (decodeLossy bytes) := by
  unfold decodeLossy
  fun_induction scan bytes with
  | case1 => exact .nil
  | case2 a rest one ih =>
    have code : a.toNat < 128 := UInt8.lt_iff_toNat_lt.mp one
    exact lossy_char (encodeChar_scan_one code) ih
  | case3 a _ lead =>
    obtain ⟨lower, upper⟩ := between lead
    have below := Nat.le_trans upper (show 223 ≤ 244 by decide)
    exact lossy_cut (by simp) (.inl rfl) (scan_cut_lead lower below)
  | case4 a _ lead b rest tail ih =>
    obtain ⟨lower, upper⟩ := between lead
    exact lossy_char (encodeChar_scan_two lower upper tail) ih
  | case5 a _ lead b rest noTail ih =>
    obtain ⟨lower, upper⟩ := between lead
    exact lossy_broken [a] (by simp) (.inl rfl) (breaks_two lower upper noTail) ih
  | case6 a _ _ lead =>
    obtain ⟨lower, upper⟩ := between lead
    have above := Nat.le_trans (show 194 ≤ 224 by decide) lower
    have below := Nat.le_trans upper (show 239 ≤ 244 by decide)
    exact lossy_cut (by simp) (.inl rfl) (scan_cut_lead above below)
  | case7 a _ _ lead b second =>
    obtain ⟨lower, upper⟩ := between lead
    have below := Nat.le_trans upper (show 239 ≤ 244 by decide)
    exact lossy_cut (by simp) (.inr (begins_second lower below second))
      (scan_cut_second lower below second)
  | case8 a _ _ lead b second c rest tail ih =>
    obtain ⟨lower, upper⟩ := between lead
    exact lossy_char (encodeChar_scan_three lower upper second tail) ih
  | case9 a _ _ lead b second c rest noTail ih =>
    obtain ⟨lower, upper⟩ := between lead
    have below := Nat.le_trans upper (show 239 ≤ 244 by decide)
    exact lossy_broken [a, b] (by simp) (.inr (begins_second lower below second))
      (breaks_third lower below second noTail) ih
  | case10 a _ _ lead b rest noSecond ih =>
    obtain ⟨lower, upper⟩ := between lead
    have below := Nat.le_trans upper (show 239 ≤ 244 by decide)
    exact lossy_broken [a] (by simp) (.inl rfl) (breaks_second lower below noSecond) ih
  | case11 a _ _ _ lead =>
    obtain ⟨lower, upper⟩ := between lead
    have above := Nat.le_trans (show 194 ≤ 240 by decide) lower
    exact lossy_cut (by simp) (.inl rfl) (scan_cut_lead above upper)
  | case12 a _ _ _ lead b second =>
    obtain ⟨lower, upper⟩ := between lead
    have above := Nat.le_trans (show 224 ≤ 240 by decide) lower
    exact lossy_cut (by simp) (.inr (begins_second above upper second))
      (scan_cut_second above upper second)
  | case13 a _ _ _ lead b second c third =>
    obtain ⟨lower, upper⟩ := between lead
    exact lossy_cut (by simp) (.inr (begins_third lower upper second third))
      (scan_cut_third lower upper second third)
  | case14 a _ _ _ lead b second c third d rest tail ih =>
    obtain ⟨lower, upper⟩ := between lead
    exact lossy_char (encodeChar_scan_four lower upper second third tail) ih
  | case15 a _ _ _ lead b second c third d rest noTail ih =>
    obtain ⟨lower, upper⟩ := between lead
    exact lossy_broken [a, b, c] (by simp) (.inr (begins_third lower upper second third))
      (breaks_fourth lower upper second third noTail) ih
  | case16 a _ _ _ lead b second c rest noTail ih =>
    obtain ⟨lower, upper⟩ := between lead
    have above := Nat.le_trans (show 224 ≤ 240 by decide) lower
    exact lossy_broken [a, b] (by simp) (.inr (begins_second above upper second))
      (breaks_third above upper second noTail) ih
  | case17 a _ _ _ lead b rest noSecond ih =>
    obtain ⟨lower, upper⟩ := between lead
    have above := Nat.le_trans (show 224 ≤ 240 by decide) lower
    exact lossy_broken [a] (by simp) (.inl rfl) (breaks_second above upper noSecond) ih
  | case18 a rest one two three four ih =>
    have high : 128 ≤ a.toNat := Nat.le_of_not_lt fun low => one (UInt8.lt_iff_toNat_lt.mpr low)
    simp only [UInt8.le_iff_toNat_le, Bool.and_eq_true, decide_eq_true_eq,
      UInt8.reduceToNat] at two three four
    exact .stray (.of_lead (breaks_lead high (by omega))) ih

theorem lossy_iff : Lossy bytes cs ↔ cs = decodeLossy bytes := by
  constructor
  · exact fun lossy => lossy.unique (lossy_decodeLossy bytes)
  · rintro rfl
    exact lossy_decodeLossy bytes

/-- Nothing of a text is replaced. -/
theorem decodeLossy_encode (cs : List Char) : decodeLossy (encode cs) = cs := by
  rw [decodeLossy, scan_encode, List.map_map]
  exact List.map_id cs

/-- A character that is cut short, and an octet that begins none. -/
example : decodeLossy [0xF0, 0x9F, 0x98, 0x42, 0xC0] = ['\uFFFD', 'B', '\uFFFD'] := by
  decide

end Geoflow.Utf8
