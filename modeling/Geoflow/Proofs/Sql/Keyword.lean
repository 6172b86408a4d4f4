import Geoflow.Proofs.Sql.FirstFault
import Geoflow.Proofs.Sql.Sequence

set_option autoImplicit false

namespace Geoflow

namespace Text

/-- The characters that continue a word. -/
def isWordChar (c : Char) : Bool := c.isAlphanum || c == '_'

/-- A word in any letter case, between two texts that do not continue it. -/
structure IsWholeWord (word : String) (before spelled after : List Char) : Prop where
  spelling : spelled.map Char.toUpper = word.toList
  left : ∀ c ∈ before.getLast?, isWordChar c = false
  right : ∀ c ∈ after.head?, isWordChar c = false

theorem not_mem_capital_of_delimiter {c x : Char} (delimiter : isWordChar c = false)
    (upper : x.isUpper = true) (ordinary : x ∉ specialCapitals) : x ∉ capital c := by
  intro mem
  have letter := isAlpha_of_mem_capital mem upper ordinary
  rw [isWordChar, Char.isAlphanum, letter, Bool.true_or, Bool.true_or] at delimiter
  cases delimiter

end Text

namespace Sql

/-- The words that start statements or parts of them. -/
def keywords : List String :=
  ["SELECT", "INSERT", "UPDATE", "DELETE", "DROP", "ALTER", "CREATE", "TRUNCATE", "EXEC", "UNION",
    "INTO", "MERGE", "EXECUTE"]

/-- The keywords that are looked for as they are. -/
def bareKeywords : List String := ["TRUNCATE", "EXEC", "UNION", "INTO", "MERGE", "EXECUTE"]

/-- The keywords that are looked for with a blank behind them. -/
def guardedKeywords : List String :=
  ["SELECT", "INSERT", "UPDATE", "DELETE", "DROP", "ALTER", "CREATE"]

def Refused (cs : List Char) : Prop := ∃ fault, checkExpression (String.ofList cs) = .error fault

/-- What gives a keyword between two texts away. -/
def IsNoticed (word : String) (before after : List Char) : Prop :=
  word ∈ bareKeywords ∨ after.head? = some ' ' ∨ Refused before ∨ Refused after

theorem refused_iff {cs : List Char} : Refused cs ↔ expressionFault? cs ≠ none := by
  simp only [Refused, checkExpression_ofList_eq_error_iff, Option.ne_none_iff_exists']

theorem Refused.of_part {part cs : List Char} (inside : part <:+: cs) (refused : Refused part) :
    Refused cs := by
  rw [refused_iff] at refused ⊢
  exact fun accepted => refused (expressionFault?_eq_none_of_part inside accepted)

theorem refused_of_entry {cs : List Char} {entry : String} (listed : entry ∈ forbiddenKeywords)
    (occurs : entry.toList <:+: Text.capitals cs) : Refused cs := by
  rw [refused_iff, ne_eq, expressionFault?_eq_none_iff]
  exact fun accepted => accepted.2 entry listed occurs

theorem isNameChar_of_isAlpha {c : Char} (letter : c.isAlpha = true) : isNameChar c = true := by
  simp only [isNameChar, Char.le_def, UInt32.le_iff_toNat_le, Bool.or_eq_true, Bool.and_eq_true,
    decide_eq_true_eq]
  rcases Text.isAlpha_iff.mp letter with upper | lower
  · exact Or.inl (Or.inl (Or.inl (Or.inr (Text.isUpper_iff.mp upper))))
  · exact Or.inl (Or.inl (Or.inl (Or.inl (Text.isLower_iff.mp lower))))

theorem bare_or_guarded : ∀ word ∈ keywords, word ∈ bareKeywords ∨ word ∈ guardedKeywords := by
  decide

theorem mem_keywords_of_guarded : ∀ word ∈ guardedKeywords, word ∈ keywords := by decide

theorem mem_forbiddenKeywords_of_bare : ∀ word ∈ bareKeywords, word ∈ forbiddenKeywords := by
  decide

/-- The entry of the block list for a guarded keyword ends with a blank. -/
theorem entry_of_guarded : ∀ word ∈ guardedKeywords,
    ∃ entry ∈ forbiddenKeywords, entry.toList = word.toList ++ [' '] := by
  decide

theorem isUpper_of_mem_keyword {word : String} (keyword : word ∈ keywords) {c : Char}
    (mem : c ∈ word.toList) : c.isUpper = true := by
  have every : ∀ word ∈ keywords, word.toList.all Char.isUpper = true := by decide
  exact List.all_eq_true.mp (every word keyword) c mem

theorem ascii_of_isUpper {c : Char} (upper : c.isUpper = true) : c.toNat < 128 :=
  Nat.lt_of_le_of_lt (Text.isUpper_iff.mp upper).2 (by decide)

theorem not_infix_guarded : ∀ word ∈ guardedKeywords, ∀ entry ∈ forbiddenKeywords,
    ¬ entry.toList <:+: word.toList := by
  decide +kernel

section

variable {word : String} {before spelled after : List Char}

theorem capitals_spelled (keyword : word ∈ keywords)
    (whole : Text.IsWholeWord word before spelled after) : Text.capitals spelled = word.toList :=
  Text.capitals_of_toUpper whole.spelling fun _ mem =>
    ascii_of_isUpper (isUpper_of_mem_keyword keyword mem)

theorem Refused.of_isNoticed (keyword : word ∈ keywords)
    (whole : Text.IsWholeWord word before spelled after) (noticed : IsNoticed word before after) :
    Refused (before ++ spelled ++ after) := by
  have form := capitals_spelled keyword whole
  have inCapitals : word.toList <:+: Text.capitals (before ++ spelled ++ after) := by
    rw [Text.capitals_append, Text.capitals_append, form]
    exact List.infix_append _ _ _
  rcases noticed with bare | blank | left | right
  · exact refused_of_entry (mem_forbiddenKeywords_of_bare word bare) inCapitals
  · rcases bare_or_guarded word keyword with bare | guarded
    · exact refused_of_entry (mem_forbiddenKeywords_of_bare word bare) inCapitals
    · obtain ⟨entry, listed, text⟩ := entry_of_guarded word guarded
      obtain ⟨rest, rfl⟩ := List.head?_eq_some_iff.mp blank
      apply refused_of_entry listed
      rw [text, Text.capitals_append, Text.capitals_append, form, Text.capitals_cons,
        ← List.append_assoc]
      exact ⟨Text.capitals before, Text.capitals rest, by simp [Text.capital_of_ascii]⟩
  · exact left.of_part ((List.prefix_append before spelled).trans
      (List.prefix_append _ after)).isInfix
  · exact right.of_part (List.suffix_append _ after).isInfix

theorem isFree_whole (keyword : word ∈ keywords)
    (whole : Text.IsWholeWord word before spelled after) (left : IsFree before)
    (right : IsFree after) : IsFree (before ++ spelled ++ after) := by
  have nonempty : spelled ≠ [] := by
    rintro rfl
    have every : ∀ word ∈ keywords, [] ≠ word.toList := by decide
    exact every word keyword whole.spelling
  have plain : spelled.all isPlain = true := by
    rw [List.all_eq_true]
    intro c mem
    have inWord : c.toUpper ∈ word.toList := whole.spelling ▸ List.mem_map_of_mem mem
    have upper := isUpper_of_mem_keyword keyword inWord
    exact isPlain_of_isNameChar (isNameChar_of_isAlpha (Text.isAlpha_of_toUpper upper))
  rw [List.append_assoc]
  exact isInert_spliced plain nonempty right before left

/-- An entry that begins in a guarded keyword goes on behind it with a blank, an R or an X. -/
theorem overlap_behind (guarded : word ∈ guardedKeywords) {entry : String}
    (listed : entry ∈ forbiddenKeywords) {first more : List Char} {x : Char}
    (split : entry.toList = first ++ x :: more) (nonempty : first ≠ [])
    (back : first <:+ word.toList) : x = ' ' ∨ x = 'R' ∨ x = 'X' := by
  have every : ∀ word ∈ guardedKeywords, ∀ entry ∈ forbiddenKeywords,
      ∀ i < entry.toList.length, 0 < i → entry.toList.take i <:+ word.toList →
        (entry.toList.drop i).head? ∈ [some ' ', some 'R', some 'X'] := by
    decide +kernel
  have next := every word guarded entry listed first.length (by simp [split])
    (List.length_pos_iff.mpr nonempty)
  rw [split, List.take_left, List.drop_left] at next
  simpa using next back

/-- An entry that begins before a guarded keyword has an E directly before it. -/
theorem overlap_before (guarded : word ∈ guardedKeywords) {entry : String}
    (listed : entry ∈ forbiddenKeywords) {first second : List Char}
    (split : entry.toList = first ++ second) (nonempty : first ≠ []) (more : second ≠ [])
    (front : second <+: word.toList ∨ word.toList <+: second) : first.getLast? = some 'E' := by
  have every : ∀ word ∈ guardedKeywords, ∀ entry ∈ forbiddenKeywords,
      ∀ i < entry.toList.length, 0 < i →
        (entry.toList.drop i <+: word.toList ∨ word.toList <+: entry.toList.drop i) →
          (entry.toList.take i).getLast? = some 'E' := by
    decide +kernel
  have last := every word guarded entry listed first.length
    (by simpa [split] using List.length_pos_iff.mpr more) (List.length_pos_iff.mpr nonempty)
  rw [split, List.take_left, List.drop_left] at last
  exact last front

/-- No entry begins in a guarded keyword that no blank follows. -/
theorem not_infix_behind (guarded : word ∈ guardedKeywords)
    (whole : Text.IsWholeWord word before spelled after) (noBlank : after.head? ≠ some ' ')
    (right : HasNoKeyword after) {entry : String} (listed : entry ∈ forbiddenKeywords) :
    ¬ entry.toList <:+: word.toList ++ Text.capitals after := by
  intro occurs
  rcases List.infix_append_iff.mp occurs with inside | inRight | ⟨first, second, split, back, front⟩
  · exact not_infix_guarded word guarded entry listed inside
  · exact right entry listed inRight
  · by_cases empty : first = []
    · rw [empty, List.nil_append] at split
      exact right entry listed (split ▸ front.isInfix)
    cases second with
    | nil =>
      rw [List.append_nil] at split
      exact not_infix_guarded word guarded entry listed (split ▸ back.isInfix)
    | cons x more =>
      obtain ⟨rest, text⟩ := front
      have head : (Text.capitals after).head? = some x := by rw [← text]; rfl
      obtain ⟨c, next, mem⟩ := Text.mem_capital_of_head?_capitals head
      have delimiter := whole.right c next
      -- The character behind the word would be a blank, or a letter.
      rcases overlap_behind guarded listed split empty back with rfl | rfl | rfl
      · rw [Text.eq_of_mem_capital mem (by decide) (by decide)] at next
        exact noBlank next
      · exact Text.not_mem_capital_of_delimiter delimiter (by decide) (by decide) mem
      · exact Text.not_mem_capital_of_delimiter delimiter (by decide) (by decide) mem

/-- A guarded keyword that no blank follows brings no entry about. -/
theorem hasNoKeyword_whole (guarded : word ∈ guardedKeywords)
    (whole : Text.IsWholeWord word before spelled after) (noBlank : after.head? ≠ some ' ')
    (left : HasNoKeyword before) (right : HasNoKeyword after) :
    HasNoKeyword (before ++ spelled ++ after) := by
  intro entry listed occurs
  have behind := not_infix_behind guarded whole noBlank right listed
  rw [List.append_assoc, Text.capitals_append, Text.capitals_append,
    capitals_spelled (mem_keywords_of_guarded word guarded) whole] at occurs
  rcases List.infix_append_iff.mp occurs with inLeft | later | ⟨first, second, split, back, front⟩
  · exact left entry listed inLeft
  · exact behind later
  · by_cases empty : first = []
    · rw [empty, List.nil_append] at split
      exact behind (split ▸ front.isInfix)
    by_cases noRest : second = []
    · rw [noRest, List.append_nil] at split
      exact left entry listed (split ▸ back.isInfix)
    have inWord := List.prefix_or_prefix_of_prefix front (List.prefix_append word.toList _)
    have last := overlap_before guarded listed split empty noRest inWord
    obtain ⟨rest, text⟩ := back
    have lastCapital : (Text.capitals before).getLast? = some 'E' := by
      rw [← text, List.getLast?_append, last, Option.some_or]
    obtain ⟨c, previous, mem⟩ := Text.mem_capital_of_getLast?_capitals lastCapital
    have delimiter := whole.left c previous
    exact Text.not_mem_capital_of_delimiter delimiter (by decide) (by decide) mem

theorem isNoticed_of_refused (keyword : word ∈ keywords)
    (whole : Text.IsWholeWord word before spelled after)
    (refused : Refused (before ++ spelled ++ after)) : IsNoticed word before after := by
  rcases bare_or_guarded word keyword with bare | guarded
  · exact Or.inl bare
  by_contra unnoticed
  simp only [IsNoticed, not_or, refused_iff, not_not] at unnoticed
  obtain ⟨-, noBlank, leftAccepted, rightAccepted⟩ := unnoticed
  obtain ⟨leftFree, left⟩ := expressionFault?_eq_none_iff.mp leftAccepted
  obtain ⟨rightFree, right⟩ := expressionFault?_eq_none_iff.mp rightAccepted
  have free := isFree_whole keyword whole leftFree rightFree
  have noKeyword := hasNoKeyword_whole guarded whole noBlank left right
  exact refused_iff.mp refused (expressionFault?_eq_none_iff.mpr ⟨free, noKeyword⟩)

theorem refused_iff_isNoticed (keyword : word ∈ keywords)
    (whole : Text.IsWholeWord word before spelled after) :
    Refused (before ++ spelled ++ after) ↔ IsNoticed word before after :=
  ⟨isNoticed_of_refused keyword whole, Refused.of_isNoticed keyword whole⟩

theorem compile_blames_expression_iff_refused {c : PipelineConfig} {dialect : Dialect}
    {earlier later : List ColumnMapping} {m : ColumnMapping}
    (reached : c.ReachesExpression earlier m later) :
    (∃ fault,
      compile c dialect = .error (.validation (.expression earlier.length) (.fragment fault))) ↔
      Refused m.expression.toList := by
  simp only [compile_blames_expression_iff reached, Refused, checkExpression_ofList_eq_error_iff]

/-- Doubling the quotes of a value neither hides anything in it nor brings anything about. -/
theorem compile_blames_value_iff_refused {c : PipelineConfig} {dialect : Dialect}
    {earlier later : List FilterConfig} {f : FilterConfig}
    (reached : c.ReachesValue earlier f later) :
    (∃ fault,
      compile c dialect = .error (.validation (.filterValue earlier.length) (.fragment fault))) ↔
      Refused f.value.toList := by
  simp only [compile_blames_value_iff reached, expressionFault?_doubleQuotes, Refused,
    checkExpression_ofList_eq_error_iff]

/-- A keyword that is a word of its own makes an expression refused, and the configuration that has
it as an expression or as a filter value, exactly if something gives it away. -/
theorem whole_keyword_refused_iff (keyword : word ∈ keywords)
    (whole : Text.IsWholeWord word before spelled after) :
    (Refused (before ++ spelled ++ after) ↔ IsNoticed word before after) ∧
    (∀ (c : PipelineConfig) (dialect : Dialect) (earlier : List ColumnMapping) (m : ColumnMapping)
      (later : List ColumnMapping), c.ReachesExpression earlier m later →
        m.expression.toList = before ++ spelled ++ after →
          ((∃ fault, compile c dialect =
            .error (.validation (.expression earlier.length) (.fragment fault))) ↔
              IsNoticed word before after)) ∧
    (∀ (c : PipelineConfig) (dialect : Dialect) (earlier : List FilterConfig) (f : FilterConfig)
      (later : List FilterConfig), c.ReachesValue earlier f later →
        f.value.toList = before ++ spelled ++ after →
          ((∃ fault, compile c dialect =
            .error (.validation (.filterValue earlier.length) (.fragment fault))) ↔
              IsNoticed word before after)) := by
  have refused := refused_iff_isNoticed keyword whole
  refine ⟨refused, ?_, ?_⟩
  · intro c dialect earlier m later reached text
    rw [compile_blames_expression_iff_refused reached, text]
    exact refused
  · intro c dialect earlier f later reached text
    rw [compile_blames_value_iff_refused reached, text]
    exact refused

end

/-- A keyword in mixed case between a quote and a blank, once behind another expression and once as
the value of a filter. -/
def droppingConfig (expression value : String) : PipelineConfig where
  baseTable := "t"
  mappings := [⟨"id", "t.id"⟩, ⟨"lng", expression⟩]
  filters := [⟨"t.a", "=", value⟩]

theorem whole_keyword_refused_iff_dropping :
    (∃ fault, compile (droppingConfig "x'dRoP y" "") .mysql =
      .error (.validation (.expression 1) (.fragment fault))) ∧
    (∃ fault, compile (droppingConfig "t.lng" "x'dRoP y") .postgres =
      .error (.validation (.filterValue 0) (.fragment fault))) := by
  have whole : Text.IsWholeWord "DROP" ['x', '\''] ['d', 'R', 'o', 'P'] [' ', 'y'] :=
    ⟨by decide, by simp [Text.isWordChar], by simp [Text.isWordChar]⟩
  have noticed : IsNoticed "DROP" ['x', '\''] [' ', 'y'] := Or.inr (Or.inl rfl)
  obtain ⟨-, expression, value⟩ := whole_keyword_refused_iff (by decide) whole
  constructor
  · refine (expression _ _ [⟨"id", "t.id"⟩] ⟨"lng", "x'dRoP y"⟩ [] ?_ rfl).mpr noticed
    exact ⟨rfl, by decide, by decide, by decide⟩
  · refine (value _ _ [] ⟨"t.a", "=", "x'dRoP y"⟩ [] ?_ rfl).mpr noticed
    exact ⟨rfl, by decide, by decide, by decide, by decide, by decide, by decide, by decide⟩

/-- With a tab behind it a keyword is overlooked, and a second query gets into the statement. -/
theorem tab_hides_keyword :
    Text.IsWholeWord "SELECT" ['('] "SELECT".toList "\tt.secret FROM u)".toList ∧
    checkExpression "(SELECT\tt.secret FROM u)" = .ok () ∧
    compile { baseTable := "t", mappings := [⟨"id", "(SELECT\tt.secret FROM u)"⟩] } .postgres =
      .ok "SELECT\n    (SELECT\tt.secret FROM u) AS id\nFROM t" := by
  refine ⟨⟨rfl, by simp [Text.isWordChar], ?_⟩, by rfl, by rfl⟩
  intro c mem
  rw [← Option.some.inj (Option.mem_def.mp mem)]
  decide

end Sql

end Geoflow
