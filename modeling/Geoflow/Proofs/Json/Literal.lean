import Geoflow.Json.Printer
import Geoflow.Proofs.Json.Number
import Geoflow.Proofs.Text.Hex

set_option autoImplicit false

namespace Geoflow.Json

variable {c : Char} {cs : List Char} {rest : Input} {parts : List Part}

/-- The part of a literal that a character is written as. -/
def partOf (c : Char) : Part :=
  if c.toNat < 32 ∧ ¬ (c = '\x08' ∨ c = '\x0c' ∨ c = '\n' ∨ c = '\r' ∨ c = '\t') then .unit c.toNat
  else .char c

theorem hexUnit?_control (control : c.toNat < 32) :
    hexUnit? '0' '0' (Nat.digitChar (c.toNat / 16)) (Nat.digitChar (c.toNat % 16)) =
      some c.toNat := by
  have all : ∀ n < 32,
      hexUnit? '0' '0' (Nat.digitChar (n / 16)) (Nat.digitChar (n % 16)) = some n := by decide
  exact all c.toNat control

theorem stringParts?_plain (noQuote : c ≠ '"') (noEscape : c ≠ '\\') (noControl : ¬ c.toNat < 32) :
    stringParts? (some c :: rest) =
      (stringParts? rest).map fun found => (.char c :: found.1, found.2) := by
  rw [stringParts?, if_neg noControl]
  · exact noQuote
  · exact fun _ _ _ _ _ _ => noEscape
  · exact fun _ _ _ => noEscape
  · exact noEscape

theorem stringParts?_escape {e : Char} (letter : e ≠ 'u') (meaning : escape? e = some c) :
    stringParts? (some '\\' :: some e :: rest) =
      (stringParts? rest).map fun found => (.char c :: found.1, found.2) := by
  rw [stringParts?, meaning]
  · simp only [Option.map_eq_bind]
    rfl
  · intro _ _ _ _ _ _ unit
    exact absurd unit letter

theorem stringParts?_unit {a b d e : Char} {n : Nat} (digits : hexUnit? a b d e = some n) :
    stringParts? (some '\\' :: some 'u' :: some a :: some b :: some d :: some e :: rest) =
      (stringParts? rest).map fun found => (.unit n :: found.1, found.2) := by
  rw [stringParts?, digits, Option.map_eq_bind]
  rfl

theorem stringParts?_escapeChar (c : Char) (rest : Input) :
    stringParts? (written (escapeChar c) ++ rest) =
      (stringParts? rest).map fun found => (partOf c :: found.1, found.2) := by
  unfold escapeChar
  split
  · subst c; exact stringParts?_escape (by decide) rfl
  split
  · subst c; exact stringParts?_escape (by decide) rfl
  split
  · subst c; exact stringParts?_escape (by decide) rfl
  split
  · subst c; exact stringParts?_escape (by decide) rfl
  split
  · subst c; exact stringParts?_escape (by decide) rfl
  split
  · subst c; exact stringParts?_escape (by decide) rfl
  split
  · subst c; exact stringParts?_escape (by decide) rfl
  rename_i noQuote noEscape noBack noFeed noLine noReturn noTab
  split
  · rename_i control
    have unit : partOf c = .unit c.toNat :=
      if_pos ⟨control, by simp only [noBack, noFeed, noLine, noReturn, noTab, or_self,
        not_false_eq_true]⟩
    rw [unit]
    exact stringParts?_unit (hexUnit?_control control)
  · rename_i noControl
    have plain : partOf c = .char c := if_neg fun control => noControl control.1
    rw [plain]
    exact stringParts?_plain noQuote noEscape noControl

/-- A literal behind its opening quote is read as the parts of its characters. -/
theorem stringParts?_written (cs : List Char) (rest : Input) :
    stringParts? (written (cs.flatMap escapeChar) ++ some '"' :: rest) =
      some (cs.map partOf, rest) := by
  induction cs with
  | nil => exact stringParts?_close rest
  | cons c cs ih =>
    rw [List.flatMap_cons, written_append, List.append_assoc, stringParts?_escapeChar, ih]
    rfl

/-- A control character is no half of a pair, whatever follows it. -/
theorem meaning?_unit {n : Nat} (control : n < 32) (parts : List Part) :
    meaning? (.unit n :: parts) = (meaning? parts).map (Char.ofNat n :: ·) := by
  have low : ¬ (0xD800 ≤ n ∧ n < 0xDC00) := by omega
  have high : ¬ (0xDC00 ≤ n ∧ n < 0xE000) := by omega
  have any : ¬ (0xD800 ≤ n ∧ n < 0xE000) := by omega
  by_cases paired : ∃ follower after, parts = .unit follower :: after
  · obtain ⟨follower, after, rfl⟩ := paired
    rw [meaning?, if_neg low, if_neg high]
  · rw [meaning?, if_neg any]
    exact fun follower after same => paired ⟨follower, after, same⟩

theorem meaning?_partOf (c : Char) (parts : List Part) :
    meaning? (partOf c :: parts) = (meaning? parts).map (c :: ·) := by
  unfold partOf
  split
  · rename_i control
    rw [meaning?_unit control.1, Char.ofNat_toNat]
  · exact meaning?_char c parts

theorem meaning?_written (cs : List Char) : meaning? (cs.map partOf) = some cs := by
  induction cs with
  | nil => rw [List.map_nil, meaning?]
  | cons c cs ih =>
    rw [List.map_cons, meaning?_partOf, ih]
    rfl

/-- A literal is read as the text it was written from. -/
theorem string?_written (s : String) (rest : Input) :
    string? (written (s.toList.flatMap escapeChar) ++ some '"' :: rest) =
      some (some s, rest) := by
  rw [string?, stringParts?_written]
  simp only [Option.map_some, meaning?_written, String.ofList_toList]

end Geoflow.Json
