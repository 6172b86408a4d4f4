import Mathlib.Tactic.SplitIfs
import Geoflow.Proofs.Sql.Statement

set_option autoImplicit false

namespace Geoflow

/-- Whether a backslash in a literal starts an escape. -/
def Dialect.escapes : Dialect → Bool
  | .postgres => false
  | .mysql => true

namespace Sql

/-- What a backslash and the character after it stand for. The two wildcards of patterns keep their
backslash, and a character without a meaning of its own stands for itself. -/
def escapeMeaning (c : Char) : List Char :=
  if c = '0' then ['\x00']
  else if c = 'b' then ['\x08']
  else if c = 'n' then ['\n']
  else if c = 'r' then ['\r']
  else if c = 't' then ['\t']
  else if c = 'Z' then ['\x1a']
  else if c = '%' ∨ c = '_' then ['\\', c]
  else [c]

def inFront (cs : List Char) (found : List Char × List Char) : List Char × List Char :=
  (cs ++ found.1, found.2)

/-- Reads a literal behind its opening quote: what it stands for, and what follows its closing
quote. -/
def readBody (d : Dialect) : List Char → Option (List Char × List Char)
  | [] => none
  | c :: rest =>
    if c = '\'' then
      match rest with
      | '\'' :: more => (readBody d more).map (inFront ['\''])
      | _ => some ([], rest)
    else if c = '\\' ∧ d.escapes = true then
      match rest with
      | [] => none
      | e :: more => (readBody d more).map (inFront (escapeMeaning e))
    else (readBody d rest).map (inFront [c])

def readLiteral (d : Dialect) : List Char → Option (List Char × List Char)
  | '\'' :: rest => readBody d rest
  | _ => none

/-- Every backslash stands before a wildcard, where it is kept. -/
def KeepsBackslashes : List Char → Prop
  | [] => True
  | c :: rest =>
    (c = '\\' → rest.head? = some '%' ∨ rest.head? = some '_') ∧ KeepsBackslashes rest

variable {d : Dialect}

theorem readBody_doubled (more : List Char) :
    readBody d ('\'' :: '\'' :: more) = (readBody d more).map (inFront ['\'']) := by
  simp [readBody]

/-- A quote with no other one behind it closes the literal. -/
theorem readBody_close {rest : List Char} (single : rest.head? ≠ some '\'') :
    readBody d ('\'' :: rest) = some ([], rest) := by
  rw [readBody.eq_def]
  simp only [↓reduceIte]
  split
  · exact absurd rfl single
  · rfl

theorem readBody_plain {c : Char} (rest : List Char) (noQuote : c ≠ '\'')
    (noEscape : ¬ (c = '\\' ∧ d.escapes = true)) :
    readBody d (c :: rest) = (readBody d rest).map (inFront [c]) := by
  rw [readBody.eq_def]
  simp only [noQuote, noEscape, ↓reduceIte]

theorem readBody_escape (escapes : d.escapes = true) (e : Char) (more : List Char) :
    readBody d ('\\' :: e :: more) = (readBody d more).map (inFront (escapeMeaning e)) := by
  rw [readBody.eq_def]
  simp only [escapes, and_self, ↓reduceIte, Char.reduceEq]

@[simp] theorem doubleQuotes_nil : doubleQuotes [] = [] := rfl

@[simp] theorem doubleQuotes_quote (rest : List Char) :
    doubleQuotes ('\'' :: rest) = '\'' :: '\'' :: doubleQuotes rest := by
  simp [doubleQuotes]

theorem doubleQuotes_other {c : Char} (noQuote : c ≠ '\'') (rest : List Char) :
    doubleQuotes (c :: rest) = c :: doubleQuotes rest := by
  simp [doubleQuotes, noQuote]

/-- Without escapes, the doubled text of any value is read back as the value. -/
theorem readBody_doubleQuotes (plain : d.escapes = false) (value : List Char) {rest : List Char}
    (single : rest.head? ≠ some '\'') :
    readBody d (doubleQuotes value ++ '\'' :: rest) = some (value, rest) := by
  induction value with
  | nil => exact readBody_close single
  | cons c value ih =>
    by_cases quote : c = '\''
    · rw [quote, doubleQuotes_quote, List.cons_append, List.cons_append, readBody_doubled, ih]
      rfl
    · rw [doubleQuotes_other quote, List.cons_append, readBody_plain _ quote (by simp [plain]), ih]
      rfl

/-- With escapes, so is a value that keeps its backslashes. -/
theorem readBody_of_keeps (escapes : d.escapes = true) {value rest : List Char}
    (keeps : KeepsBackslashes value) (single : rest.head? ≠ some '\'') :
    readBody d (doubleQuotes value ++ '\'' :: rest) = some (value, rest) := by
  induction size : value.length using Nat.strongRecOn generalizing value with
  | ind size ih =>
    cases value with
    | nil => exact readBody_close single
    | cons c value =>
      obtain ⟨wildcard, keeps⟩ := keeps
      rw [List.length_cons] at size
      by_cases quote : c = '\''
      · rw [quote, doubleQuotes_quote, List.cons_append, List.cons_append, readBody_doubled,
          ih value.length (by omega) keeps rfl]
        rfl
      · rw [doubleQuotes_other quote, List.cons_append]
        by_cases escape : c = '\\'
        · cases value with
          | nil => simp [escape] at wildcard
          | cons e more =>
            have kept : e = '%' ∨ e = '_' := by simpa [escape] using wildcard
            have noQuote : e ≠ '\'' := by rcases kept with rfl | rfl <;> decide
            have meaning : escapeMeaning e = ['\\', e] := by rcases kept with rfl | rfl <;> rfl
            rw [List.length_cons] at size
            rw [escape, doubleQuotes_other noQuote, List.cons_append, readBody_escape escapes,
              ih more.length (by omega) keeps.2 rfl, meaning]
            rfl
        · rw [readBody_plain _ quote (by simp [escape]), ih value.length (by omega) keeps rfl]
          rfl

theorem map_inFront_eq_some {cs value rest : List Char} {found : Option (List Char × List Char)}
    (read : found.map (inFront cs) = some (value, rest)) :
    ∃ later, found = some (later, rest) ∧ value = cs ++ later := by
  obtain ⟨⟨later, left⟩, rfl, equal⟩ := Option.map_eq_some_iff.mp read
  obtain ⟨rfl, rfl⟩ := Prod.mk.inj equal
  exact ⟨later, rfl, rfl⟩

/-- A meaning has a backslash only if that of a wildcard or of a second backslash. -/
theorem count_escapeMeaning (e : Char) :
    (escapeMeaning e).count '\\' ≤ ['\\', e].count '\\' ∧
      ((escapeMeaning e).count '\\' = ['\\', e].count '\\' → e = '%' ∨ e = '_') := by
  unfold escapeMeaning
  split_ifs <;> simp_all [List.count_cons]

/-- Reading never adds backslashes, and loses none only where each stands before a wildcard. -/
theorem readBody_backslashes (escapes : d.escapes = true) {text value rest : List Char}
    (read : readBody d text = some (value, rest)) :
    ∃ used, text = used ++ rest ∧ value.count '\\' ≤ used.count '\\' ∧
      (value.count '\\' = used.count '\\' → KeepsBackslashes used) := by
  induction text using readBody.induct d generalizing value with
  | case1 => simp [readBody] at read
  | case2 more ih =>
    rw [readBody_doubled] at read
    obtain ⟨later, readMore, rfl⟩ := map_inFront_eq_some read
    obtain ⟨used, rfl, atMost, keeps⟩ := ih readMore
    refine ⟨'\'' :: '\'' :: used, rfl, by simpa [List.count_cons] using atMost, ?_⟩
    intro same
    have kept := keeps (by simpa [List.count_cons] using same)
    exact ⟨by simp, by simp, kept⟩
  | case3 more single =>
    rw [readBody_close (by cases more <;> simp_all)] at read
    obtain ⟨rfl, rfl⟩ := Prod.mk.inj (Option.some.inj read)
    exact ⟨['\''], rfl, by simp, fun _ => ⟨by simp, trivial⟩⟩
  | case4 c noQuote escape =>
    rw [escape.1] at read
    simp [readBody, escapes] at read
  | case5 c noQuote escape e more ih =>
    rw [escape.1, readBody_escape escapes] at read
    obtain ⟨later, readMore, rfl⟩ := map_inFront_eq_some read
    obtain ⟨used, rfl, atMost, keeps⟩ := ih readMore
    obtain ⟨noMore, wildcard⟩ := count_escapeMeaning e
    have split : ('\\' :: e :: used).count '\\' = ['\\', e].count '\\' + used.count '\\' := by
      rw [← List.count_append]
      rfl
    refine ⟨'\\' :: e :: used, by rw [escape.1]; rfl, ?_, ?_⟩
    · rw [List.count_append, split]
      omega
    · rw [List.count_append, split]
      intro same
      have kept := wildcard (by omega)
      refine ⟨fun _ => by simpa using kept, ?_, keeps (by omega)⟩
      rintro rfl
      simp at kept
  | case6 c more noQuote noEscape ih =>
    have noBackslash : c ≠ '\\' := fun same => noEscape ⟨same, escapes⟩
    rw [readBody_plain _ noQuote noEscape] at read
    obtain ⟨later, readMore, rfl⟩ := map_inFront_eq_some read
    obtain ⟨used, rfl, atMost, keeps⟩ := ih readMore
    refine ⟨c :: used, rfl, by simpa [List.count_cons] using atMost, ?_⟩
    intro same
    exact ⟨fun escape => absurd escape noBackslash, keeps (by simpa [List.count_cons] using same)⟩

theorem count_doubleQuotes (value : List Char) :
    (doubleQuotes value).count '\\' = value.count '\\' := by
  induction value with
  | nil => rfl
  | cons c value ih =>
    by_cases quote : c = '\''
    · simp [quote, ih]
    · simp [doubleQuotes_other quote, List.count_cons, ih]

theorem keeps_of_doubleQuotes {value : List Char}
    (keeps : KeepsBackslashes (doubleQuotes value ++ ['\''])) : KeepsBackslashes value := by
  induction value with
  | nil => trivial
  | cons c value ih =>
    by_cases quote : c = '\''
    · rw [quote, doubleQuotes_quote] at keeps
      exact ⟨by simp [quote], ih keeps.2.2⟩
    · rw [doubleQuotes_other quote] at keeps
      refine ⟨fun escape => ?_, ih keeps.2⟩
      have wildcard := keeps.1 escape
      cases value with
      | nil => simp at wildcard
      | cons e more =>
        by_cases second : e = '\''
        · simp [second] at wildcard
        · simpa [doubleQuotes_other second] using wildcard

/-- The literal of a value, read from its opening quote, ends at its own closing quote and stands
for the value: always for PostgreSQL, and for MySQL exactly if the value keeps its backslashes. -/
theorem readLiteral_literal_iff (d : Dialect) (value : String) {rest : List Char}
    (single : rest.head? ≠ some '\'') :
    readLiteral d (literal value ++ rest) = some (value.toList, rest) ↔
      d = .postgres ∨ KeepsBackslashes value.toList := by
  have body : readLiteral d (literal value ++ rest) =
      readBody d (doubleQuotes value.toList ++ '\'' :: rest) := by
    simp [literal, readLiteral]
  rw [body]
  cases d with
  | postgres => simp [readBody_doubleQuotes (d := .postgres) rfl _ single]
  | mysql =>
    simp only [reduceCtorEq, false_or]
    constructor
    · intro read
      obtain ⟨used, text, -, keeps⟩ := readBody_backslashes (d := .mysql) rfl read
      rw [List.append_cons] at text
      obtain rfl := List.append_cancel_right text
      apply keeps_of_doubleQuotes
      apply keeps
      rw [List.count_append, count_doubleQuotes]
      rfl
    · intro keeps
      exact readBody_of_keeps rfl keeps single

end Sql

end Geoflow
