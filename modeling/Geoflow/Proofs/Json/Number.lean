import Geoflow.Json.Raw
import Geoflow.Proofs.Numeral

set_option autoImplicit false

namespace Geoflow.Json

def written (cs : List Char) : Input := cs.map some

@[simp] theorem written_nil : written [] = [] := rfl

@[simp] theorem written_cons (c : Char) (cs : List Char) :
    written (c :: cs) = some c :: written cs := rfl

@[simp] theorem written_append (cs ds : List Char) :
    written (cs ++ ds) = written cs ++ written ds :=
  List.map_append

@[simp] theorem length_written (cs : List Char) : (written cs).length = cs.length :=
  List.length_map _

/-- Nothing of a value goes on here: the input is at its end or at a mark between values. -/
def Ends (rest : Input) : Prop :=
  ∀ c, rest.head? = some (some c) → c = ',' ∨ c = ']' ∨ c = '\x7d'

/-- The input does not start with a digit. -/
def StopsDigits (rest : Input) : Prop :=
  ∀ c, rest.head? = some (some c) → Numeral.isDigit c = false

theorem ends_nil : Ends [] := nofun

theorem ends_cons {c : Char} {rest : Input} (mark : c = ',' ∨ c = ']' ∨ c = '\x7d') :
    Ends (some c :: rest) := by
  intro d same
  cases same
  exact mark

variable {rest : Input} {ds : List Char} {c : Char}

theorem Ends.stopsDigits (ends : Ends rest) : StopsDigits rest := by
  intro c head
  rcases ends c head with rfl | rfl | rfl <;> decide

theorem stopsDigits_cons (notDigit : Numeral.isDigit c = false) : StopsDigits (some c :: rest) := by
  intro d same
  cases same
  exact notDigit

theorem takeDigits_of_stop (stops : StopsDigits rest) : takeDigits rest = ([], rest) := by
  unfold takeDigits
  split
  · rename_i c tail
    rw [if_neg (Bool.eq_false_iff.mp (stops c rfl))]
  · rfl

theorem takeDigits_written (digits : ∀ c ∈ ds, Numeral.isDigit c = true)
    (stops : StopsDigits rest) :
    takeDigits (written ds ++ rest) = (ds, rest) := by
  induction ds with
  | nil => exact takeDigits_of_stop stops
  | cons d ds ih =>
    obtain ⟨digit, digits⟩ := List.forall_mem_cons.mp digits
    rw [written_cons, List.cons_append, takeDigits, if_pos digit, ih digits]

def fractionChars (ds : List Char) : List Char := if ds.isEmpty then [] else '.' :: ds

/-- The characters of an exponent, always with its sign. -/
def exponentChars : Option (Bool × List Char) → List Char
  | none => []
  | some (negative, ds) => 'e' :: (if negative then '-' else '+') :: ds

def NumberText.chars (n : NumberText) : List Char :=
  (if n.negative then ['-'] else []) ++
    (n.whole ++ (fractionChars n.fraction ++ exponentChars n.exponent))

/-- A number that can be written: digits in all its parts, and a zero only alone in front. -/
structure NumberText.Writable (n : NumberText) : Prop where
  whole : ∀ c ∈ n.whole, Numeral.isDigit c = true
  leads : ∃ d ds, n.whole = d :: ds ∧ (d = '0' → ds = [])
  fraction : ∀ c ∈ n.fraction, Numeral.isDigit c = true
  exponent : ∀ part, n.exponent = some part →
    part.2 ≠ [] ∧ ∀ c ∈ part.2, Numeral.isDigit c = true

theorem whole?_written (digits : ∀ c ∈ ds, Numeral.isDigit c = true)
    (leads : ∃ d tail, ds = d :: tail ∧ (d = '0' → tail = [])) (stops : StopsDigits rest) :
    whole? (written ds ++ rest) = some (ds, rest) := by
  obtain ⟨d, tail, rfl, alone⟩ := leads
  rw [whole?, takeDigits_written digits stops]
  have single : ¬ (d = '0' ∧ !tail.isEmpty) := by
    rintro ⟨zero, more⟩
    rw [alone zero] at more
    cases more
  simp only [if_neg single]

theorem fraction?_absent (noPoint : ∀ tail, rest ≠ some '.' :: tail) :
    fraction? rest = some ([], rest) := by
  unfold fraction?
  split
  · rename_i tail
    exact absurd rfl (noPoint tail)
  · rfl

theorem fraction?_written (digits : ∀ c ∈ ds, Numeral.isDigit c = true)
    (stops : StopsDigits rest) (noPoint : ∀ tail, rest ≠ some '.' :: tail) :
    fraction? (written (fractionChars ds) ++ rest) = some (ds, rest) := by
  unfold fractionChars
  cases ds with
  | nil => exact fraction?_absent noPoint
  | cons d tail =>
    simp only [List.isEmpty_cons, Bool.false_eq_true, if_false, written_cons, List.cons_append]
    rw [fraction?, ← List.cons_append, ← written_cons, takeDigits_written digits stops]

theorem exponentDigits?_written (negative : Bool)
    (digits : ∀ c ∈ ds, Numeral.isDigit c = true) (nonempty : ds ≠ []) (stops : StopsDigits rest) :
    exponentDigits? negative (written ds ++ rest) = some (some (negative, ds), rest) := by
  rw [exponentDigits?, takeDigits_written digits stops]
  cases ds with
  | nil => exact absurd rfl nonempty
  | cons d tail => rfl

theorem exponent?_written {exponent : Option (Bool × List Char)}
    (digits : ∀ part, exponent = some part →
      part.2 ≠ [] ∧ ∀ c ∈ part.2, Numeral.isDigit c = true)
    (ends : Ends rest) :
    exponent? (written (exponentChars exponent) ++ rest) = some (exponent, rest) := by
  match exponent with
  | none =>
    unfold exponentChars exponent?
    rw [written_nil, List.nil_append]
    split
    · rename_i c tail
      have mark := ends c rfl
      rw [if_neg (by rintro (rfl | rfl) <;> revert mark <;> decide)]
    · rfl
  | some (negative, ds) =>
    obtain ⟨nonempty, digits⟩ := digits _ rfl
    have found := exponentDigits?_written negative digits nonempty ends.stopsDigits
    cases negative with
    | true => simpa [exponentChars, exponent?] using found
    | false => simpa [exponentChars, exponent?] using found

theorem unsigned?_written {n : NumberText} (writable : n.Writable) (ends : Ends rest) :
    unsigned? n.negative
        (written (n.whole ++ (fractionChars n.fraction ++ exponentChars n.exponent)) ++ rest) =
      some (n, rest) := by
  have behindFraction : StopsDigits (written (exponentChars n.exponent) ++ rest) ∧
      ∀ tail, written (exponentChars n.exponent) ++ rest ≠ some '.' :: tail := by
    cases n.exponent with
    | none =>
      refine ⟨ends.stopsDigits, fun tail same => ?_⟩
      have mark := ends '.' (by rw [show rest = some '.' :: tail from same]; rfl)
      revert mark
      decide
    | some part => exact ⟨stopsDigits_cons (by decide), fun tail same => by cases same⟩
  have behindWhole : StopsDigits (written (fractionChars n.fraction) ++
      (written (exponentChars n.exponent) ++ rest)) := by
    unfold fractionChars
    split
    · exact behindFraction.1
    · exact stopsDigits_cons (by decide)
  rw [written_append, written_append, List.append_assoc, List.append_assoc, unsigned?,
    whole?_written writable.whole writable.leads behindWhole]
  simp only [Option.bind_eq_bind, Option.bind_some]
  rw [fraction?_written writable.fraction behindFraction.1 behindFraction.2]
  simp only [Option.bind_some]
  rw [exponent?_written writable.exponent ends]
  rfl

/-- A number is read as it was written. -/
theorem number?_written {n : NumberText} (writable : n.Writable) (ends : Ends rest) :
    number? (written n.chars ++ rest) = some (n, rest) := by
  have read := unsigned?_written writable ends
  unfold NumberText.chars
  cases sign : n.negative with
  | true =>
    rw [sign] at read
    exact read
  | false =>
    rw [sign] at read
    obtain ⟨d, ds, leads, -⟩ := writable.leads
    have digit : Numeral.isDigit d = true :=
      writable.whole d (by rw [leads]; exact List.mem_cons_self)
    rw [leads] at read ⊢
    unfold number?
    split
    · rename_i tail same
      have minus : some d = some '-' := congrArg List.head? same |> Option.some.inj
      cases minus
      exact absurd digit (by decide)
    · exact read

end Geoflow.Json
