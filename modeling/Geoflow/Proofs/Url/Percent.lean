import Geoflow.Proofs.Text.Utf8
import Geoflow.Url.Percent

set_option autoImplicit false

namespace Geoflow.Percent

variable {c mark : Char} {cs : List Char} {escaped : Escaped} {b : UInt8}

theorem ascii_ofNat_toNat (small : b.toNat < 128) : ascii (Char.ofNat b.toNat) = b := by
  have code := Utf8.toNat_ofNat_char (n := b.toNat) (by omega) (by omega)
  rw [ascii, code, UInt8.ofNat_toNat]

theorem not_lt_of_not_controls (plain : controls b = false) : b.toNat < 128 := by
  simp only [controls, Bool.or_eq_false_iff, decide_eq_false_iff_not, UInt8.le_iff_toNat_le,
    UInt8.reduceToNat] at plain
  omega

/-- A set of octets that takes in everything beyond ASCII. -/
def Escaped.Covers (escaped : Escaped) : Prop := ∀ b, controls b = true → escaped b = true

theorem covers_controls : Escaped.Covers controls := fun _ inside => inside

theorem covers_inPath : Escaped.Covers inPath := by
  intro b inside
  simp [inPath, inFragment, inside]

theorem covers_inUserInfo : Escaped.Covers inUserInfo := by
  intro b inside
  simp [inUserInfo, covers_inPath b inside]

def isAdded (c : Char) : Bool := "%0123456789ABCDEF".toList.contains c

theorem capitalDigit_mod (n : Nat) : capitalDigit (n % 16) = capitalDigit n := by
  rw [capitalDigit, capitalDigit, Hex.digit, Hex.digit, Nat.mod_mod]

theorem isAdded_capitalDigit (n : Nat) : isAdded (capitalDigit n) = true := by
  have all : ∀ n < 16, isAdded (capitalDigit n) = true := by decide
  rw [← capitalDigit_mod]
  exact all _ (Nat.mod_lt n (by omega))

/-- A character that encoding does not bring in was there before and is let stand. -/
theorem mem_encode (covers : escaped.Covers) (mem : c ∈ encode escaped cs)
    (kept : isAdded c = false) : c ∈ cs ∧ escaped (ascii c) = false := by
  obtain ⟨b, inOctets, form⟩ := List.mem_flatMap.mp mem
  unfold encodeOctet at form
  split at form
  · have added : isAdded c = true := by
      simp only [List.mem_cons, List.not_mem_nil, or_false] at form
      rcases form with percent | high | low
      · exact percent ▸ rfl
      · exact high ▸ isAdded_capitalDigit _
      · exact low ▸ isAdded_capitalDigit _
    rw [added] at kept
    cases kept
  · rename_i plain
    have visible : controls b = false :=
      Bool.eq_false_iff.mpr fun control => plain (covers b control)
    have small := not_lt_of_not_controls visible
    rw [List.mem_singleton] at form
    rw [form, ascii_ofNat_toNat small]
    exact ⟨Utf8.mem_of_mem_encode inOctets small, Bool.eq_false_iff.mpr plain⟩

theorem encode_ne_nil (some : cs ≠ []) : encode escaped cs ≠ [] := by
  intro none
  obtain ⟨c, inText⟩ := List.exists_mem_of_ne_nil cs some
  obtain ⟨b, inOctets⟩ := List.exists_mem_of_ne_nil _ (Utf8.encodeChar_ne_nil c)
  have octet : b ∈ Utf8.encode cs := List.mem_flatMap.mpr ⟨c, inText, inOctets⟩
  have empty := List.flatMap_eq_nil_iff.mp none b octet
  unfold encodeOctet at empty
  split at empty <;> cases empty

end Geoflow.Percent
