import Geoflow.Text.Blank
import Geoflow.Text.Capital

set_option autoImplicit false

namespace Geoflow.Text

def specialCapitals : List Char :=
  ['S', 'I', '\u02BC', 'N', 'J', '\u030C', 'H', '\u0331', 'T', '\u0308', 'W', '\u030A', 'Y', 'A',
    '\u02BE', 'F', 'L']

section Letters

variable {c : Char}

theorem isUpper_iff : c.isUpper = true ↔ 65 ≤ c.val.toNat ∧ c.val.toNat ≤ 90 :=
  decide_eq_true_iff.trans (and_congr UInt32.le_iff_toNat_le UInt32.le_iff_toNat_le)

theorem isLower_iff : c.isLower = true ↔ 97 ≤ c.val.toNat ∧ c.val.toNat ≤ 122 := by
  have bounds : c.isLower = true ↔ 'a'.val ≤ c.val ∧ c.val ≤ 'z'.val :=
    Bool.and_eq_true_iff.trans (and_congr decide_eq_true_iff decide_eq_true_iff)
  exact bounds.trans (and_congr UInt32.le_iff_toNat_le UInt32.le_iff_toNat_le)

theorem isAlpha_iff : c.isAlpha = true ↔ c.isUpper = true ∨ c.isLower = true :=
  Bool.or_eq_true_iff

end Letters

theorem capital_ne_nil (c : Char) : capital c ≠ [] := by
  unfold capital
  split <;> simp

theorem capital_of_ascii {c : Char} (ascii : c.toNat < 128) : capital c = [c.toUpper] := by
  unfold capital
  split <;> first | omega | rfl

theorem mem_specialCapitals_of_all {cs : List Char} {x : Char} (mem : x ∈ cs)
    (special : cs.all specialCapitals.contains = true) : x ∈ specialCapitals := by
  simpa using List.all_eq_true.mp special x mem

theorem mem_capital {c x : Char} (mem : x ∈ capital c) :
    x = c.toUpper ∨ x ∈ specialCapitals := by
  unfold capital at mem
  split at mem
  case h_18 => exact Or.inl (List.mem_singleton.mp mem)
  all_goals exact Or.inr (mem_specialCapitals_of_all mem rfl)

/-- Only small ASCII letters change, and they become capital ones. -/
theorem toUpper_eq_or (c : Char) :
    c.toUpper = c ∨ (c.isLower = true ∧ c.toUpper.isUpper = true) := by
  unfold Char.toUpper
  split
  · rename_i lower
    have low : 97 ≤ c.val.toNat := UInt32.le_iff_toNat_le.mp lower.1
    have high : c.val.toNat ≤ 122 := UInt32.le_iff_toNat_le.mp lower.2
    have shift : (c.val + ('A'.val - 'a'.val)).toNat = c.val.toNat - 32 := by
      rw [UInt32.toNat_add]
      change (c.val.toNat + 4294967264) % 4294967296 = _
      omega
    right
    refine ⟨isLower_iff.mpr ⟨low, high⟩, isUpper_iff.mpr ?_⟩
    rw [shift]
    omega
  · exact Or.inl rfl

theorem isAlpha_of_toUpper {c : Char} (upper : c.toUpper.isUpper = true) : c.isAlpha = true := by
  rcases toUpper_eq_or c with kept | ⟨lower, -⟩
  · exact isAlpha_iff.mpr (Or.inl (kept ▸ upper))
  · exact isAlpha_iff.mpr (Or.inr lower)

theorem eq_of_toUpper_eq {c x : Char} (noLetter : x.isAlpha = false) (same : c.toUpper = x) :
    c = x := by
  rcases toUpper_eq_or c with kept | ⟨-, upper⟩
  · rw [← same, kept]
  · rw [← same, isAlpha_iff.mpr (Or.inl upper)] at noLetter
    cases noLetter

/-- An ASCII letter that no special form has is in the capital form of letters only. -/
theorem isAlpha_of_mem_capital {c x : Char} (mem : x ∈ capital c) (upper : x.isUpper = true)
    (ordinary : x ∉ specialCapitals) : c.isAlpha = true := by
  rcases mem_capital mem with rfl | special
  · exact isAlpha_of_toUpper upper
  · exact absurd special ordinary

theorem eq_of_mem_capital {c x : Char} (mem : x ∈ capital c) (noLetter : x.isAlpha = false)
    (ordinary : x ∉ specialCapitals) : c = x := by
  rcases mem_capital mem with same | special
  · exact eq_of_toUpper_eq noLetter same.symm
  · exact absurd special ordinary

@[simp] theorem capitals_nil : capitals [] = [] := rfl

@[simp] theorem capitals_cons (c : Char) (rest : List Char) :
    capitals (c :: rest) = capital c ++ capitals rest := rfl

@[simp] theorem capitals_append (before after : List Char) :
    capitals (before ++ after) = capitals before ++ capitals after :=
  List.flatMap_append

/-- The first character of a capital form comes from the first character of the text. -/
theorem mem_capital_of_head?_capitals {cs : List Char} {x : Char}
    (first : (capitals cs).head? = some x) : ∃ c, cs.head? = some c ∧ x ∈ capital c := by
  cases cs with
  | nil => simp at first
  | cons c rest =>
    obtain ⟨d, more, form⟩ := List.exists_cons_of_ne_nil (capital_ne_nil c)
    rw [capitals_cons, form, List.cons_append, List.head?_cons, Option.some.injEq] at first
    exact ⟨c, rfl, by rw [form, first]; exact List.mem_cons_self⟩

/-- The last character of a capital form comes from the last character of the text. -/
theorem mem_capital_of_getLast?_capitals {cs : List Char} {x : Char}
    (last : (capitals cs).getLast? = some x) : ∃ c, cs.getLast? = some c ∧ x ∈ capital c := by
  rcases List.eq_nil_or_concat cs with rfl | ⟨front, c, rfl⟩
  · simp at last
  · have form := List.getLast?_eq_some_getLast (capital_ne_nil c)
    rw [List.concat_eq_append, capitals_append, capitals_cons, capitals_nil, List.append_nil,
      List.getLast?_append, form, Option.some_or, Option.some.injEq] at last
    exact ⟨c, by simp, by rw [← last]; exact List.getLast_mem (capital_ne_nil c)⟩

theorem capitals_of_toUpper {cs word : List Char} (spelled : cs.map Char.toUpper = word)
    (ascii : ∀ c ∈ word, c.toNat < 128) : capitals cs = word := by
  induction cs generalizing word with
  | nil => exact spelled
  | cons c rest ih =>
    subst spelled
    have small : c.toNat < 128 := by
      have bound := ascii c.toUpper List.mem_cons_self
      rcases toUpper_eq_or c with kept | ⟨lower, -⟩
      · rwa [kept] at bound
      · exact Nat.lt_of_le_of_lt (isLower_iff.mp lower).2 (by decide)
    rw [capitals_cons, capital_of_ascii small,
      ih rfl fun d mem => ascii d (List.mem_cons_of_mem _ mem)]
    rfl

end Geoflow.Text
