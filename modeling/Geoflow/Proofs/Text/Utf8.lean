import Geoflow.Text.Utf8

set_option autoImplicit false

namespace Geoflow.Utf8

variable {a b c d : UInt8} {char : Char} {n : Nat} {bytes rest : List UInt8} {cs : List Char}

theorem isTail_iff : isTail b = true ↔ 128 ≤ b.toNat ∧ b.toNat ≤ 191 := by
  simp [isTail, UInt8.le_iff_toNat_le]

theorem isSecond_iff : isSecond a b = true ↔
    128 ≤ b.toNat ∧ b.toNat ≤ 191 ∧ (a.toNat = 224 → 160 ≤ b.toNat) ∧
      (a.toNat = 237 → b.toNat ≤ 159) ∧ (a.toNat = 240 → 144 ≤ b.toNat) ∧
      (a.toNat = 244 → b.toNat ≤ 143) := by
  have code : ∀ k : UInt8, a == k ↔ a.toNat = k.toNat := by
    intro k
    rw [beq_iff_eq, UInt8.toNat_inj]
  unfold isSecond isTail
  simp only [code]
  repeat' split
  all_goals
    simp [UInt8.le_iff_toNat_le] at *
    omega

theorem toNat_ofNat_of_lt {k : Nat} (small : k < 256) : (UInt8.ofNat k).toNat = k := by
  rw [UInt8.toNat_ofNat', Nat.mod_eq_of_lt small]

theorem eq_ofNat_of_toNat (code : a.toNat = n) : a = UInt8.ofNat n := by
  rw [← code, UInt8.ofNat_toNat]

theorem encodeChar_one (code : char.toNat < 128) :
    String.utf8EncodeChar char = [UInt8.ofNat char.toNat] := by
  have value : char.val.toNat = char.toNat := rfl
  unfold String.utf8EncodeChar
  simp only [value]
  rw [if_pos (by omega)]

theorem encodeChar_two (lower : 128 ≤ char.toNat) (upper : char.toNat < 2048) :
    String.utf8EncodeChar char =
      [UInt8.ofNat (char.toNat / 64 + 192), UInt8.ofNat (char.toNat % 64 + 128)] := by
  have value : char.val.toNat = char.toNat := rfl
  have lead : char.toNat / 64 % 32 = char.toNat / 64 := by omega
  unfold String.utf8EncodeChar
  simp only [value, lead]
  rw [if_neg (by omega), if_pos (by omega)]

theorem encodeChar_three (lower : 2048 ≤ char.toNat) (upper : char.toNat < 65536) :
    String.utf8EncodeChar char =
      [UInt8.ofNat (char.toNat / 4096 + 224), UInt8.ofNat (char.toNat / 64 % 64 + 128),
        UInt8.ofNat (char.toNat % 64 + 128)] := by
  have value : char.val.toNat = char.toNat := rfl
  have lead : char.toNat / 4096 % 16 = char.toNat / 4096 := by omega
  unfold String.utf8EncodeChar
  simp only [value, lead]
  rw [if_neg (by omega), if_neg (by omega), if_pos (by omega)]

theorem toNat_lt (char : Char) : char.toNat < 1114112 ∧
    (char.toNat < 55296 ∨ 57344 ≤ char.toNat) := by
  have valid := char.valid
  have value : char.val.toNat = char.toNat := rfl
  rcases valid with low | ⟨low, high⟩
  · omega
  · omega

theorem encodeChar_four (lower : 65536 ≤ char.toNat) :
    String.utf8EncodeChar char =
      [UInt8.ofNat (char.toNat / 262144 + 240), UInt8.ofNat (char.toNat / 4096 % 64 + 128),
        UInt8.ofNat (char.toNat / 64 % 64 + 128), UInt8.ofNat (char.toNat % 64 + 128)] := by
  have value : char.val.toNat = char.toNat := rfl
  have bound := (toNat_lt char).1
  have lead : char.toNat / 262144 % 8 = char.toNat / 262144 := by omega
  unfold String.utf8EncodeChar
  simp only [value, lead]
  rw [if_neg (by omega), if_neg (by omega), if_neg (by omega)]

theorem encodeChar_ne_nil (char : Char) : String.utf8EncodeChar char ≠ [] := by
  have size := char.utf8Size_pos
  rw [← String.length_utf8EncodeChar] at size
  exact List.ne_nil_of_length_pos size

theorem encodeChar_high (beyond : 128 ≤ char.toNat) :
    ∀ b ∈ String.utf8EncodeChar char, 128 ≤ b.toNat := by
  have bound := (toNat_lt char).1
  by_cases two : char.toNat < 2048
  · rw [encodeChar_two beyond two]
    simp only [List.forall_mem_cons, List.not_mem_nil, false_implies, implies_true, and_true]
    refine ⟨?_, ?_⟩ <;> rw [toNat_ofNat_of_lt] <;> omega
  · by_cases three : char.toNat < 65536
    · rw [encodeChar_three (by omega) three]
      simp only [List.forall_mem_cons, List.not_mem_nil, false_implies, implies_true, and_true]
      refine ⟨?_, ?_, ?_⟩ <;> rw [toNat_ofNat_of_lt] <;> omega
    · rw [encodeChar_four (by omega)]
      simp only [List.forall_mem_cons, List.not_mem_nil, false_implies, implies_true, and_true]
      refine ⟨?_, ?_, ?_, ?_⟩ <;> rw [toNat_ofNat_of_lt] <;> omega

theorem length_encode (s : String) : (encode s.toList).length = s.utf8ByteSize := by
  obtain ⟨cs, rfl⟩ := s.exists_eq_ofList
  simp [encode, String.utf8ByteSize, List.utf8Encode]

theorem scan_lead_two (lower : 194 ≤ a.toNat) (upper : a.toNat ≤ 223) (bytes : List UInt8) :
    scan (a :: bytes) = match bytes with
      | [] => [.stray 1 true]
      | b :: rest =>
        if isTail b then .char (Char.ofNat (a.toNat % 32 * 64 + tailBits b)) :: scan rest
        else .stray 1 false :: scan (b :: rest) := by
  rw [scan.eq_def]
  simp only [UInt8.lt_iff_toNat_lt, UInt8.le_iff_toNat_le, Bool.and_eq_true, decide_eq_true_eq,
    UInt8.reduceToNat]
  rw [if_neg (by omega)]
  exact if_pos ⟨lower, upper⟩

theorem scan_lead_three (lower : 224 ≤ a.toNat) (upper : a.toNat ≤ 239) (bytes : List UInt8) :
    scan (a :: bytes) = match bytes with
      | [] => [.stray 1 true]
      | b :: rest =>
        if isSecond a b then
          match rest with
          | [] => [.stray 2 true]
          | c :: rest =>
            if isTail c then
              .char (Char.ofNat (a.toNat % 16 * 4096 + tailBits b * 64 + tailBits c)) :: scan rest
            else .stray 2 false :: scan (c :: rest)
        else .stray 1 false :: scan (b :: rest) := by
  rw [scan.eq_def]
  simp only [UInt8.lt_iff_toNat_lt, UInt8.le_iff_toNat_le, Bool.and_eq_true, decide_eq_true_eq,
    UInt8.reduceToNat]
  rw [if_neg (by omega), if_neg (by omega)]
  exact if_pos ⟨lower, upper⟩

theorem scan_lead_four (lower : 240 ≤ a.toNat) (upper : a.toNat ≤ 244) (bytes : List UInt8) :
    scan (a :: bytes) = match bytes with
      | [] => [.stray 1 true]
      | b :: rest =>
        if isSecond a b then
          match rest with
          | [] => [.stray 2 true]
          | c :: rest =>
            if isTail c then
              match rest with
              | [] => [.stray 3 true]
              | d :: rest =>
                if isTail d then
                  .char (Char.ofNat (a.toNat % 8 * 262144 + tailBits b * 4096 + tailBits c * 64
                    + tailBits d)) :: scan rest
                else .stray 3 false :: scan (d :: rest)
            else .stray 2 false :: scan (c :: rest)
        else .stray 1 false :: scan (b :: rest) := by
  rw [scan.eq_def]
  simp only [UInt8.lt_iff_toNat_lt, UInt8.le_iff_toNat_le, Bool.and_eq_true, decide_eq_true_eq,
    UInt8.reduceToNat]
  rw [if_neg (by omega), if_neg (by omega), if_neg (by omega)]
  exact if_pos ⟨lower, upper⟩

theorem scan_two (lower : 194 ≤ a.toNat) (upper : a.toNat ≤ 223) (tail : isTail b = true) :
    scan (a :: b :: rest) =
      .char (Char.ofNat (a.toNat % 32 * 64 + tailBits b)) :: scan rest := by
  rw [scan_lead_two lower upper]
  exact if_pos tail

theorem scan_three (lower : 224 ≤ a.toNat) (upper : a.toNat ≤ 239) (second : isSecond a b = true)
    (tail : isTail c = true) :
    scan (a :: b :: c :: rest) =
      .char (Char.ofNat (a.toNat % 16 * 4096 + tailBits b * 64 + tailBits c)) :: scan rest := by
  rw [scan_lead_three lower upper]
  exact (if_pos second).trans (if_pos tail)

theorem scan_four (lower : 240 ≤ a.toNat) (upper : a.toNat ≤ 244) (second : isSecond a b = true)
    (third : isTail c = true) (tail : isTail d = true) :
    scan (a :: b :: c :: d :: rest) =
      .char (Char.ofNat (a.toNat % 8 * 262144 + tailBits b * 4096 + tailBits c * 64 + tailBits d))
        :: scan rest := by
  rw [scan_lead_four lower upper]
  exact ((if_pos second).trans (if_pos third)).trans (if_pos tail)

/-- What has been written for a character is read as that character. -/
theorem scan_encodeChar (char : Char) (rest : List UInt8) :
    scan (String.utf8EncodeChar char ++ rest) = .char char :: scan rest := by
  obtain ⟨bound, noSurrogate⟩ := toNat_lt char
  have back : ∀ n, n = char.toNat → Char.ofNat n = char := by
    intro n same
    rw [same, Char.ofNat_toNat]
  by_cases one : char.toNat < 128
  · have code : (UInt8.ofNat char.toNat).toNat = char.toNat := toNat_ofNat_of_lt (by omega)
    rw [encodeChar_one one, List.cons_append, List.nil_append, scan_one (by omega), back _ code]
  · by_cases two : char.toNat < 2048
    · have lead : (UInt8.ofNat (char.toNat / 64 + 192)).toNat = char.toNat / 64 + 192 :=
        toNat_ofNat_of_lt (by omega)
      have tail : (UInt8.ofNat (char.toNat % 64 + 128)).toNat = char.toNat % 64 + 128 :=
        toNat_ofNat_of_lt (by omega)
      simp only [encodeChar_two (by omega) two, List.cons_append, List.nil_append]
      rw [scan_two (by omega) (by omega) (isTail_iff.mpr (by omega)), back]
      unfold tailBits
      omega
    · have tail : (UInt8.ofNat (char.toNat % 64 + 128)).toNat = char.toNat % 64 + 128 :=
        toNat_ofNat_of_lt (by omega)
      have middle : (UInt8.ofNat (char.toNat / 64 % 64 + 128)).toNat = char.toNat / 64 % 64 + 128 :=
        toNat_ofNat_of_lt (by omega)
      by_cases three : char.toNat < 65536
      · have lead : (UInt8.ofNat (char.toNat / 4096 + 224)).toNat = char.toNat / 4096 + 224 :=
          toNat_ofNat_of_lt (by omega)
        simp only [encodeChar_three (by omega) three, List.cons_append, List.nil_append]
        rw [scan_three (by omega) (by omega) (isSecond_iff.mpr (by omega))
          (isTail_iff.mpr (by omega)), back]
        unfold tailBits
        omega
      · have lead : (UInt8.ofNat (char.toNat / 262144 + 240)).toNat = char.toNat / 262144 + 240 :=
          toNat_ofNat_of_lt (by omega)
        have second : (UInt8.ofNat (char.toNat / 4096 % 64 + 128)).toNat =
            char.toNat / 4096 % 64 + 128 := toNat_ofNat_of_lt (by omega)
        have beyond : 65536 ≤ char.toNat := by omega
        have spelled := encodeChar_four beyond
        simp only [spelled, List.cons_append, List.nil_append]
        rw [scan_four (by omega) (by omega) (isSecond_iff.mpr (by omega))
          (isTail_iff.mpr (by omega)) (isTail_iff.mpr (by omega)), back]
        unfold tailBits
        omega

theorem toNat_ofNat_char (bound : n < 1114112) (noSurrogate : n < 55296 ∨ 57344 ≤ n) :
    (Char.ofNat n).toNat = n := by
  have valid : n.isValidChar := by
    rcases noSurrogate with low | high
    · exact Or.inl low
    · exact Or.inr ⟨by omega, bound⟩
  rw [Char.ofNat, dif_pos valid]
  rfl

theorem encodeChar_scan_one (code : a.toNat < 128) :
    String.utf8EncodeChar (Char.ofNat a.toNat) = [a] := by
  have same : (Char.ofNat a.toNat).toNat = a.toNat := toNat_ofNat_char (by omega) (by omega)
  rw [encodeChar_one (by omega), same, UInt8.ofNat_toNat]

theorem encodeChar_scan_two (lower : 194 ≤ a.toNat) (upper : a.toNat ≤ 223)
    (tail : isTail b = true) :
    String.utf8EncodeChar (Char.ofNat (a.toNat % 32 * 64 + tailBits b)) = [a, b] := by
  have inTail := isTail_iff.mp tail
  have bits : tailBits b = b.toNat % 64 := rfl
  have code := toNat_ofNat_char (n := a.toNat % 32 * 64 + tailBits b) (by omega) (by omega)
  rw [encodeChar_two (by omega) (by omega), code]
  rw [← eq_ofNat_of_toNat (a := a) (by omega), ← eq_ofNat_of_toNat (a := b) (by omega)]

theorem encodeChar_scan_three (lower : 224 ≤ a.toNat) (upper : a.toNat ≤ 239)
    (second : isSecond a b = true) (tail : isTail c = true) :
    String.utf8EncodeChar (Char.ofNat (a.toNat % 16 * 4096 + tailBits b * 64 + tailBits c)) =
      [a, b, c] := by
  have inSecond := isSecond_iff.mp second
  have inTail := isTail_iff.mp tail
  have bitsB : tailBits b = b.toNat % 64 := rfl
  have bitsC : tailBits c = c.toNat % 64 := rfl
  have code := toNat_ofNat_char (n := a.toNat % 16 * 4096 + tailBits b * 64 + tailBits c)
    (by omega) (by omega)
  rw [encodeChar_three (by omega) (by omega), code]
  rw [← eq_ofNat_of_toNat (a := a) (by omega), ← eq_ofNat_of_toNat (a := b) (by omega),
    ← eq_ofNat_of_toNat (a := c) (by omega)]

theorem encodeChar_scan_four (lower : 240 ≤ a.toNat) (upper : a.toNat ≤ 244)
    (second : isSecond a b = true) (third : isTail c = true) (tail : isTail d = true) :
    String.utf8EncodeChar (Char.ofNat
      (a.toNat % 8 * 262144 + tailBits b * 4096 + tailBits c * 64 + tailBits d)) =
        [a, b, c, d] := by
  have inSecond := isSecond_iff.mp second
  have inThird := isTail_iff.mp third
  have inTail := isTail_iff.mp tail
  have bitsB : tailBits b = b.toNat % 64 := rfl
  have bitsC : tailBits c = c.toNat % 64 := rfl
  have bitsD : tailBits d = d.toNat % 64 := rfl
  have code := toNat_ofNat_char
    (n := a.toNat % 8 * 262144 + tailBits b * 4096 + tailBits c * 64 + tailBits d)
    (by omega) (by omega)
  rw [encodeChar_four (by omega), code]
  rw [← eq_ofNat_of_toNat (a := a) (by omega), ← eq_ofNat_of_toNat (a := b) (by omega),
    ← eq_ofNat_of_toNat (a := c) (by omega), ← eq_ofNat_of_toNat (a := d) (by omega)]

theorem encode_cons : encode (char :: cs) = String.utf8EncodeChar char ++ encode cs := rfl

theorem scan_encode (cs : List Char) : scan (encode cs) = cs.map .char := by
  induction cs with
  | nil => rfl
  | cons char cs ih => rw [encode_cons, scan_encodeChar, ih, List.map_cons]

theorem stray_ne_chars {count : Nat} {cut : Bool} {more : List Symbol} :
    Symbol.stray count cut :: more ≠ cs.map .char := by
  cases cs with
  | nil => simp
  | cons first rest => simp

theorem append_eq_encode {front : List UInt8} (spelled : String.utf8EncodeChar char = front)
    (chars : .char char :: scan rest = cs.map .char)
    (later : ∀ {more : List Char}, scan rest = more.map .char → rest = encode more) :
    front ++ rest = encode cs := by
  cases cs with
  | nil => cases chars
  | cons first more =>
    obtain ⟨same, others⟩ := List.cons.inj chars
    cases same
    rw [encode_cons, spelled, ← later others]

theorem between {low high : UInt8} (inside : (low ≤ a && a ≤ high) = true) :
    low.toNat ≤ a.toNat ∧ a.toNat ≤ high.toNat := by
  rw [Bool.and_eq_true, decide_eq_true_eq, decide_eq_true_eq] at inside
  exact inside

theorem eq_encode_of_scan (chars : scan bytes = cs.map .char) : bytes = encode cs := by
  fun_induction scan bytes generalizing cs with
  | case1 =>
    cases cs with
    | nil => rfl
    | cons => cases chars
  | case2 a rest one ih =>
    have code : a.toNat < 128 := UInt8.lt_iff_toNat_lt.mp one
    exact append_eq_encode (encodeChar_scan_one code) chars ih
  | case4 a _ lead b rest tail ih =>
    obtain ⟨lower, upper⟩ := between lead
    exact append_eq_encode (encodeChar_scan_two lower upper tail) chars ih
  | case8 a _ _ lead b second c rest tail ih =>
    obtain ⟨lower, upper⟩ := between lead
    exact append_eq_encode (encodeChar_scan_three lower upper second tail) chars ih
  | case14 a _ _ _ lead b second c third d rest tail ih =>
    obtain ⟨lower, upper⟩ := between lead
    exact append_eq_encode (encodeChar_scan_four lower upper second third tail) chars ih
  | _ => exact absurd chars stray_ne_chars

theorem collect_eq_ok_iff {symbols : List Symbol} :
    collect n symbols = .ok cs ↔ symbols = cs.map .char := by
  induction symbols generalizing n cs with
  | nil => cases cs <;> simp [collect]
  | cons symbol rest ih =>
    cases symbol with
    | stray count cut => simp [collect, stray_ne_chars]
    | char first =>
      cases cs with
      | nil => cases read : collect (n + first.utf8Size) rest <;> simp [collect, read, Except.map]
      | cons c more =>
        have later : collect (n + first.utf8Size) rest = .ok more ↔ rest = more.map .char := ih
        rw [List.map_cons, List.cons.injEq, ← later]
        cases read : collect (n + first.utf8Size) rest <;> simp [collect, read, Except.map]

/-- Strict reading accepts the octets of a text and nothing else. -/
theorem decode_eq_ok_iff : decode bytes = .ok cs ↔ bytes = encode cs := by
  rw [decode, collect_eq_ok_iff]
  constructor
  · exact eq_encode_of_scan
  · intro written
    rw [written, scan_encode]

theorem encode_injective {cs' : List Char} (same : encode cs = encode cs') : cs = cs' := by
  have read := decode_eq_ok_iff.mpr same
  rw [decode_eq_ok_iff.mpr rfl] at read
  exact Except.ok.inj read

/-- An ASCII octet of a text is one of its characters. -/
theorem mem_of_mem_encode (mem : b ∈ encode cs) (small : b.toNat < 128) :
    Char.ofNat b.toNat ∈ cs := by
  obtain ⟨c, inText, form⟩ := List.mem_flatMap.mp mem
  by_cases one : c.toNat < 128
  · have code : (UInt8.ofNat c.toNat).toNat = c.toNat := toNat_ofNat_of_lt (by omega)
    rw [encodeChar_one one, List.mem_singleton] at form
    rwa [form, code, Char.ofNat_toNat]
  · have high := encodeChar_high (Nat.le_of_not_lt one) b form
    omega

/-- The number of octets that spell a text. -/
def octets (cs : List Char) : Nat := (encode cs).length

theorem octets_toList (s : String) : octets s.toList = s.utf8ByteSize := length_encode s

theorem octets_cons (c : Char) (cs : List Char) :
    octets (c :: cs) = (String.utf8EncodeChar c).length + octets cs := by
  rw [octets, encode_cons, List.length_append, octets]

theorem octets_append (cs ds : List Char) : octets (cs ++ ds) = octets cs + octets ds := by
  rw [octets, encode, List.flatMap_append, List.length_append]
  rfl

theorem octets_char_bounds (c : Char) :
    1 ≤ (String.utf8EncodeChar c).length ∧ (String.utf8EncodeChar c).length ≤ 4 := by
  rw [String.length_utf8EncodeChar]
  exact ⟨c.utf8Size_pos, c.utf8Size_le_four⟩

theorem length_le_octets (cs : List Char) : cs.length ≤ octets cs := by
  induction cs with
  | nil => exact Nat.zero_le _
  | cons c cs ih =>
    have one := (octets_char_bounds c).1
    rw [octets_cons, List.length_cons]
    omega

theorem length_add_octets_le (front cs : List Char) :
    front.length + octets cs ≤ octets (front ++ cs) := by
  have least := length_le_octets front
  rw [octets_append]
  omega

end Geoflow.Utf8
