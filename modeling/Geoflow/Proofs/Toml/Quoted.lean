import Geoflow.Proofs.Text.Utf8
import Geoflow.Toml.Quoted

set_option autoImplicit false

namespace Geoflow.Toml

open Utf8 (octets octets_cons octets_char_bounds length_add_octets_le)

/-- The characters behind an opening mark, the closing mark at their end, and the text that they
spell. -/
inductive Quoted : List Char → List Char → Prop
  | close : Quoted ['"'] []
  | plain {c : Char} {body text : List Char} (isPlain : isPlain c = true) (noEscape : c ≠ '\\')
    (noMark : c ≠ '"') (more : Quoted body text) : Quoted (c :: body) (c :: text)
  | escape {e c : Char} {body text : List Char} (escapes : escapeChar? e = some c)
    (more : Quoted body text) : Quoted ('\\' :: e :: body) (c :: text)
  | short {a b c d x : Char} {body text : List Char} (point : codePoint? [a, b, c, d] = some x)
    (more : Quoted body text) : Quoted ('\\' :: 'u' :: a :: b :: c :: d :: body) (x :: text)
  | long {a b c d e f g h x : Char} {body text : List Char}
    (point : codePoint? [a, b, c, d, e, f, g, h] = some x) (more : Quoted body text) :
    Quoted ('\\' :: 'U' :: a :: b :: c :: d :: e :: f :: g :: h :: body) (x :: text)

variable {cs body text rest : List Char} {c e : Char}

theorem basic?_plain (isPlain : isPlain c = true) (noEscape : c ≠ '\\') (noMark : c ≠ '"')
    (rest : List Char) : basic? (c :: rest) = consText c <$> basic? rest := by
  rw [basic?.eq_def]
  split <;> simp_all

theorem basic?_escape (escapes : escapeChar? e = some c) (rest : List Char) :
    basic? ('\\' :: e :: rest) = consText c <$> basic? rest := by
  have notShort : e ≠ 'u' := by
    rintro rfl
    cases escapes
  have notLong : e ≠ 'U' := by
    rintro rfl
    cases escapes
  rw [basic?, escapes]
  · rfl
  · intro _ _ _ _ _ letter
    exact absurd letter notShort
  · intro _ _ _ _ _ _ _ _ _ letter
    exact absurd letter notLong

theorem basic?_of_quoted (quoted : Quoted body text) (rest : List Char) :
    basic? (body ++ rest) = some (text, rest) := by
  induction quoted with
  | close => rfl
  | plain isPlain noEscape noMark _ ih =>
    rw [List.cons_append, basic?_plain isPlain noEscape noMark, ih]
    rfl
  | escape escapes _ ih =>
    rw [List.cons_append, List.cons_append, basic?_escape escapes, ih]
    rfl
  | short point _ ih =>
    simp only [List.cons_append]
    rw [basic?, point, Option.bind_eq_bind, Option.bind_some, ih]
    rfl
  | long point _ ih =>
    simp only [List.cons_append]
    rw [basic?, point, Option.bind_eq_bind, Option.bind_some, ih]
    rfl

theorem exists_of_consText {c : Char} {r : Option (List Char × List Char)}
    (read : consText c <$> r = some (text, rest)) :
    ∃ more, r = some (more, rest) ∧ text = c :: more := by
  obtain ⟨⟨more, after⟩, found, same⟩ := Option.map_eq_some_iff.mp read
  cases same
  exact ⟨more, found, rfl⟩

theorem exists_quoted_of_basic? (read : basic? cs = some (text, rest)) :
    ∃ body, cs = body ++ rest ∧ Quoted body text := by
  fun_induction basic? cs generalizing text with
  | case1 rest =>
    cases read
    exact ⟨['"'], rfl, .close⟩
  | case2 a b c d tail ih =>
    obtain ⟨point, found, read⟩ := Option.bind_eq_some_iff.mp read
    obtain ⟨more, inner, rfl⟩ := exists_of_consText read
    obtain ⟨body, rfl, quoted⟩ := ih inner
    exact ⟨_, rfl, .short found quoted⟩
  | case3 a b c d e f g h tail ih =>
    obtain ⟨point, found, read⟩ := Option.bind_eq_some_iff.mp read
    obtain ⟨more, inner, rfl⟩ := exists_of_consText read
    obtain ⟨body, rfl, quoted⟩ := ih inner
    exact ⟨_, rfl, .long found quoted⟩
  | case4 e tail _ _ ih =>
    obtain ⟨c, escapes, read⟩ := Option.bind_eq_some_iff.mp read
    obtain ⟨more, inner, rfl⟩ := exists_of_consText read
    obtain ⟨body, rfl, quoted⟩ := ih inner
    exact ⟨'\\' :: e :: body, rfl, .escape escapes quoted⟩
  | case5 c tail notMark _ _ _ plain ih =>
    obtain ⟨more, inner, rfl⟩ := exists_of_consText read
    obtain ⟨body, rfl, quoted⟩ := ih inner
    exact ⟨c :: body, rfl, .plain plain.1 plain.2 notMark quoted⟩
  | case6 => cases read
  | case7 => cases read

theorem octets_escapeChar (escapes : escapeChar? e = some c) :
    (String.utf8EncodeChar c).length = 1 := by
  unfold escapeChar? at escapes
  split at escapes <;> cases escapes <;> rfl

/-- Quoted text takes fewer octets than its spelling. -/
theorem Quoted.octets_lt (quoted : Quoted body text) : octets text < octets body := by
  induction quoted with
  | close => decide
  | plain _ _ _ _ ih =>
    rw [octets_cons, octets_cons]
    omega
  | @escape e c body _ escapes _ ih =>
    have spelled := length_add_octets_le ['\\', e] body
    simp only [List.length_cons, List.length_nil, List.cons_append, List.nil_append] at spelled
    rw [octets_cons, octets_escapeChar escapes]
    omega
  | @short a b c d x body _ _ _ ih =>
    have four := (octets_char_bounds x).2
    have spelled := length_add_octets_le ['\\', 'u', a, b, c, d] body
    simp only [List.length_cons, List.length_nil, List.cons_append, List.nil_append] at spelled
    rw [octets_cons]
    omega
  | @long a b c d e f g h x body _ _ _ ih =>
    have four := (octets_char_bounds x).2
    have spelled := length_add_octets_le ['\\', 'U', a, b, c, d, e, f, g, h] body
    simp only [List.length_cons, List.length_nil, List.cons_append, List.nil_append] at spelled
    rw [octets_cons]
    omega

end Geoflow.Toml
