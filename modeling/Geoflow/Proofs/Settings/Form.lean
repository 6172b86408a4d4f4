import Geoflow.Proofs.Row.LeadingNumber
import Geoflow.Proofs.Schedule.KeyText
import Geoflow.Proofs.Toml.Quoted
import Geoflow.Settings.Variable
import Geoflow.Toml.Reader

set_option autoImplicit false

namespace Geoflow.Variable

open Decimal (Literal)
open Toml (isBareChar)

variable {cs w : List Char} {v : Json} {i : Int}

def Fits (i : Int) : Prop := -2 ^ 63 ≤ i ∧ i < 2 ^ 64

/-- What a word stands for: a decimal literal with a point is a number, a signed numeral that fits
is a whole number, and all else is text. -/
inductive WordMeans : List Char → Json → Prop
  | number (l : Literal) (point : l.fraction.isSome = true) :
    WordMeans l.chars (.float l.decimal.toBinary64)
  | whole {cs : List Char} {i : Int} (stands : Numeral.StandsFor cs i) (fits : Fits i) :
    WordMeans cs (.int i)
  | text {cs : List Char} (noNumber : ∀ l : Literal, l.fraction.isSome = true → l.chars ≠ cs)
    (noWhole : ∀ i, Numeral.StandsFor cs i → ¬ Fits i) : WordMeans cs (.str (String.ofList cs))

theorem point_mem_literal_iff (l : Literal) : '.' ∈ l.chars ↔ l.fraction.isSome = true := by
  have noDigit : ∀ ds : List Char, (∀ c ∈ ds, Numeral.isDigit c = true) → '.' ∉ ds :=
    fun ds allDigits mem => absurd (allDigits _ mem) (by decide)
  have noSign : ∀ sign : Decimal.Sign, '.' ∉ sign.chars := by
    intro sign
    cases sign <;> decide
  have noExponent : '.' ∉ Decimal.exponentChars l.exponent := by
    cases l.exponent with
    | none => exact List.not_mem_nil
    | some part =>
      have noMark : '.' ≠ part.mark := by
        obtain mark | mark := part.isMark <;> rw [mark] <;> decide
      simp [Decimal.exponentChars, Decimal.ExponentPart.chars, noMark, noSign,
        noDigit _ part.allDigits]
  simp only [Literal.chars, Literal.unsignedChars, List.mem_append, noSign, noExponent,
    noDigit _ l.wholeDigits, false_or, or_false]
  cases l.fraction <;> simp [Decimal.fractionChars]

theorem point_not_mem_of_readSpecial? {x : Binary64}
    (read : Binary64.readSpecial? cs = some x) : '.' ∉ cs := by
  obtain ⟨⟨sign, name, named, rfl⟩, -⟩ := SqlValue.exists_name_of_readSpecial? read
  intro mem
  obtain inSign | inName := List.mem_append.mp mem
  · cases sign <;> exact absurd inSign (by decide)
  · have lowered : '.' ∈ name.map Char.toLower := List.mem_map_of_mem inName
    obtain same | same | same := SqlValue.isName_iff.mp named <;> rw [same] at lowered <;>
      exact absurd lowered (by decide)

theorem point_not_mem_of_standsFor (stands : Numeral.StandsFor cs i) : '.' ∉ cs := by
  obtain ⟨sign, digits, rfl, -, allDigits, -⟩ := stands
  intro mem
  obtain inSign | inDigits := List.mem_append.mp mem
  · cases sign <;> exact absurd inSign (by decide)
  · exact absurd (allDigits _ inDigits) (by decide)

/-- A text with a point is read as a number exactly if it is a literal. -/
theorem readPoint_eq_some_iff {x : Binary64} :
    (if cs.contains '.' then Binary64.read? cs else none) = some x ↔
      ∃ l : Literal, l.fraction.isSome = true ∧ l.chars = cs ∧ l.decimal.toBinary64 = x := by
  by_cases point : '.' ∈ cs
  · rw [if_pos (List.contains_iff_mem.mpr point), Binary64.read?]
    constructor
    · intro read
      cases whole : Decimal.read? cs with
      | some d =>
        rw [whole] at read
        obtain ⟨l, rfl, rfl⟩ := Decimal.exists_literal_of_read? whole
        exact ⟨l, (point_mem_literal_iff l).mp point, rfl, Option.some.inj read⟩
      | none =>
        rw [whole] at read
        exact absurd point (point_not_mem_of_readSpecial? read)
    · rintro ⟨l, -, rfl, rfl⟩
      rw [l.read?_chars]
  · rw [if_neg (mt List.contains_iff_mem.mp point)]
    constructor
    · intro read
      cases read
    · rintro ⟨l, some, rfl, -⟩
      exact absurd ((point_mem_literal_iff l).mpr some) point

theorem readPoint_eq_none
    (noNumber : ∀ l : Literal, l.fraction.isSome = true → l.chars ≠ cs) :
    (if cs.contains '.' then Binary64.read? cs else none) = none := by
  apply Option.eq_none_iff_forall_ne_some.mpr
  intro x read
  obtain ⟨l, point, same, -⟩ := readPoint_eq_some_iff.mp read
  exact noNumber l point same

/-- A word is read as what it stands for. -/
theorem word_of_means (means : WordMeans (Text.trimmed w) v) : word w = v := by
  have size : UInt64.size = 2 ^ 64 := rfl
  unfold word
  dsimp only
  rw [Int64.toInt_minValue, size]
  generalize Text.trimmed w = cs at means
  cases means with
  | number l point => rw [readPoint_eq_some_iff.mpr ⟨l, point, rfl, rfl⟩]
  | whole stands fits =>
    have noPoint := mt List.contains_iff_mem.mp (point_not_mem_of_standsFor stands)
    rw [if_neg noPoint, Numeral.readInt?_eq_some_iff.mpr stands]
    exact if_pos fits
  | text noNumber noWhole =>
    rw [readPoint_eq_none noNumber]
    dsimp only
    cases numeral : Numeral.readInt? cs with
    | none => rfl
    | some i => exact if_neg (noWhole i (Numeral.readInt?_eq_some_iff.mp numeral))

/-- Every word stands for something. -/
theorem exists_wordMeans (cs : List Char) : ∃ v, WordMeans cs v := by
  by_cases number : ∃ l : Literal, l.fraction.isSome = true ∧ l.chars = cs
  · obtain ⟨l, point, rfl⟩ := number
    exact ⟨_, .number l point⟩
  · by_cases whole : ∃ i, Numeral.StandsFor cs i ∧ Fits i
    · obtain ⟨i, stands, fits⟩ := whole
      exact ⟨_, .whole stands fits⟩
    · refine ⟨_, .text ?_ ?_⟩
      · intro l point same
        exact number ⟨l, point, same⟩
      · intro i stands fits
        exact whole ⟨i, stands, fits⟩

theorem word_means (w : List Char) : WordMeans (Text.trimmed w) (word w) := by
  obtain ⟨v, means⟩ := exists_wordMeans (Text.trimmed w)
  rwa [word_of_means means]

def Blanks (cs : List Char) : Prop := ∀ c ∈ cs, isBlank c = true

/-- Characters that are nothing but a word: no marks, and not the start of another form. -/
structure IsWord (w : List Char) : Prop where
  noMark : ∀ c ∈ w, isMark c = false
  solid : ∀ c, w.head? = some c → isBlank c = false ∧ c ≠ '"' ∧ c ≠ '\''
  noTrue : ¬ "true".toList <+: w
  noFalse : ¬ "false".toList <+: w

/-- The characters of a name in braces, blanks around it included. -/
inductive Label : List Char → String → Prop
  | quoted {before body text after : List Char} (blanks : Blanks before)
    (quoted : Toml.Quoted body text) (behind : Blanks after) :
    Label (before ++ '"' :: (body ++ after)) (String.ofList text)
  | bare {before name after : List Char} (blanks : Blanks before) (filled : name ≠ [])
    (chars : ∀ c ∈ name, isBareChar c = true) (behind : Blanks after) :
    Label (before ++ (name ++ after)) (String.ofList name)

mutual

/-- The characters are a value with the blanks around it. -/
inductive Means : List Char → Json → Prop
  | form {before core after : List Char} {v : Json} (blanks : Blanks before) (form : Form core v)
    (behind : Blanks after) : Means (before ++ (core ++ after)) v
  | word {before w : List Char} {v : Json} (blanks : Blanks before) (isWord : IsWord w)
    (means : WordMeans (Text.trimmed w) v) : Means (before ++ w) v

/-- The characters are a value that is more than a word. -/
inductive Form : List Char → Json → Prop
  | yes : Form "true".toList (.bool true)
  | no : Form "false".toList (.bool false)
  | quoted {body text : List Char} (quoted : Toml.Quoted body text) :
    Form ('"' :: body) (.str (String.ofList text))
  | single (c : Char) : Form ['\'', c, '\''] (.str (String.singleton c))
  | list {body : List Char} {items : List Json} (listed : Items body items) :
    Form ('[' :: body) (.arr items)
  | settings {body : List Char} {entries : List (String × Json)} (named : Entries body entries) :
    Form ('{' :: body) (.ofEntries entries)

/-- The characters are the items of a list up to its closing bracket. An item may be an empty word,
but the last one only with a comma behind it. -/
inductive Items : List Char → List Json → Prop
  | close : Items [']'] []
  | last {cs : List Char} {v : Json} (filled : cs ≠ []) (item : Means cs v) :
    Items (cs ++ [']']) [v]
  | more {cs rest : List Char} {v : Json} {vs : List Json} (item : Means cs v)
    (others : Items rest vs) : Items (cs ++ ',' :: rest) (v :: vs)

/-- The characters are the settings in braces up to the closing one. -/
inductive Entries : List Char → List (String × Json) → Prop
  | close : Entries ['}'] []
  | last {label cs : List Char} {name : String} {v : Json} (named : Label label name)
    (value : Means cs v) : Entries (label ++ '=' :: (cs ++ ['}'])) [(name, v)]
  | more {label cs rest : List Char} {name : String} {v : Json} {vs : List (String × Json)}
    (named : Label label name) (value : Means cs v) (others : Entries rest vs) :
    Entries (label ++ '=' :: (cs ++ ',' :: rest)) ((name, v) :: vs)

end

end Geoflow.Variable
