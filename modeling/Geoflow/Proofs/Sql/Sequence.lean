import Geoflow.Proofs.Numeral
import Geoflow.Proofs.Sql.Fragment

set_option autoImplicit false

namespace Geoflow.Sql

/-- A text that brings no forbidden sequence about, whatever stands before it. -/
def IsInert (text : List Char) : Prop := ∀ before, IsFree before → IsFree (before ++ text)

theorem IsInert.append {first second : List Char} (left : IsInert first) (right : IsInert second) :
    IsInert (first ++ second) := by
  intro before free
  rw [← List.append_assoc]
  exact right _ (left before free)

theorem isInert_nil : IsInert [] := by
  intro before free
  rwa [List.append_nil]

theorem isInert_cons {c : Char} {text : List Char} (plain : isPlain c = true)
    (free : IsFree text) : IsInert (c :: text) :=
  fun _ freeBefore => (isFree_append_cons_iff plain).mpr ⟨freeBefore, free⟩

theorem isInert_of_isPlain {text : List Char} (plain : text.all isPlain = true) :
    IsInert text := by
  induction text with
  | nil => exact isInert_nil
  | cons c rest ih =>
    rw [List.all_cons, Bool.and_eq_true] at plain
    exact (isInert_cons plain.1 isFree_nil).append (ih plain.2)

theorem isInert_spliced {separator text : List Char} (plain : separator.all isPlain = true)
    (nonempty : separator ≠ []) (free : IsFree text) : IsInert (separator ++ text) := by
  rcases List.eq_nil_or_concat separator with rfl | ⟨front, c, rfl⟩
  · exact absurd rfl nonempty
  · rw [List.concat_eq_append] at plain ⊢
    rw [List.all_append, Bool.and_eq_true, List.all_cons, List.all_nil, Bool.and_true] at plain
    rw [List.append_assoc]
    exact (isInert_of_isPlain plain.1).append (isInert_cons plain.2 free)

theorem IsInert.flatMap {α : Type} {items : List α} {text : α → List Char}
    (inert : ∀ item ∈ items, IsInert (text item)) : IsInert (items.flatMap text) := by
  induction items with
  | nil => exact isInert_nil
  | cons item rest ih =>
    rw [List.flatMap_cons]
    exact (inert item List.mem_cons_self).append
      (ih fun other mem => inert other (List.mem_cons_of_mem _ mem))

theorem isPlain_of_isNameChar {c : Char} (nameChar : isNameChar c = true) : isPlain c = true := by
  rw [isPlain, List.all_eq_true]
  intro sequence mem
  simp only [Bool.not_eq_true', List.contains_eq_mem, decide_eq_false_iff_not]
  intro inside
  have special : c = ';' ∨ c = '-' ∨ c = '/' ∨ c = '*' := by
    simp only [forbiddenSequences, List.mem_cons, List.not_mem_nil, or_false] at mem
    rcases mem with rfl | rfl | rfl <;> simp at inside <;> simp [inside]
  rcases special with rfl | rfl | rfl | rfl <;> exact absurd nameChar (by decide)

theorem isInert_name {name : String} (identifier : isIdentifier name = true) :
    IsInert name.toList := by
  rw [isIdentifier, Bool.and_eq_true] at identifier
  apply isInert_of_isPlain
  rw [List.all_eq_true]
  exact fun c mem => isPlain_of_isNameChar (List.all_eq_true.mp identifier.2 c mem)

theorem isInert_operator {operator : String} (allowed : operator ∈ allowedOperators) :
    IsInert operator.toList := by
  have every : ∀ operator ∈ allowedOperators, operator.toList.all isPlain = true := by decide
  exact isInert_of_isPlain (every operator allowed)

theorem isInert_joinWord (kind : String) : IsInert (joinWord kind) := by
  apply isInert_of_isPlain
  unfold joinWord
  split <;> decide

theorem isInert_digits (n : Nat) : IsInert (Numeral.digits n) := by
  apply isInert_of_isPlain
  rw [List.all_eq_true]
  intro c mem
  have digit := Numeral.isDigit_of_mem_digits mem
  rw [Numeral.isDigit] at digit
  exact isPlain_of_isNameChar (by simp only [isNameChar, digit, Bool.or_true, Bool.true_or])

theorem isInert_columnText {separator : List Char} (plain : separator.all isPlain = true)
    (nonempty : separator ≠ []) {m : ColumnMapping} (accepted : m.Accepted) :
    IsInert (separator ++ columnText m) := by
  have expression : IsInert (separator ++ m.expression.toList) :=
    isInert_spliced plain nonempty (expressionFault?_eq_none_iff.mp accepted.2).1
  rw [columnText, ← List.append_assoc, ← List.append_assoc]
  exact (expression.append (isInert_of_isPlain (by decide))).append (isInert_name accepted.1)

theorem isInert_joinText {j : JoinConfig} (accepted : j.Accepted) : IsInert (joinText j) := by
  obtain ⟨table, source, target⟩ := accepted
  have blank : IsInert [' '] := isInert_of_isPlain (by decide)
  have on : IsInert " ON ".toList := isInert_of_isPlain (by decide)
  have equals : IsInert " = ".toList := isInert_of_isPlain (by decide)
  exact (((((isInert_joinWord j.kind).append (blank.append (isInert_name table))).append on).append
    (isInert_name source)).append equals).append (isInert_name target)

theorem isInert_conditionText {f : FilterConfig} (accepted : f.Accepted) :
    IsInert (conditionText f) := by
  obtain ⟨column, operator, value⟩ := accepted
  have blank : IsInert [' '] := isInert_of_isPlain (by decide)
  have quote : IsInert ['\''] := isInert_of_isPlain (by decide)
  have literal : IsInert (literal f.value) :=
    (isInert_cons (by decide) (expressionFault?_eq_none_iff.mp value).1).append quote
  exact (((isInert_name column).append (blank.append (isInert_operator operator))).append
    blank).append literal

theorem isInert_selectText {mappings : List ColumnMapping}
    (accepted : ∀ m ∈ mappings, m.Accepted) (mapped : mappings ≠ []) :
    IsInert (selectText mappings) := by
  obtain ⟨first, rest, rfl⟩ := List.exists_cons_of_ne_nil mapped
  have start : IsInert ("SELECT\n    ".toList ++ columnText first) :=
    isInert_columnText (by decide) (by decide) (accepted first List.mem_cons_self)
  have others : IsInert ((rest.map columnText).flatMap (",\n    ".toList ++ ·)) := by
    rw [List.flatMap_map]
    exact .flatMap fun m mem =>
      isInert_columnText (by decide) (by decide) (accepted m (List.mem_cons_of_mem _ mem))
  have source : IsInert "\nFROM ".toList := isInert_of_isPlain (by decide)
  have whole := (start.append others).append source
  unfold selectText
  simpa only [List.map_cons, Text.joined_cons, List.append_assoc] using whole

theorem isInert_whereText {filters : List FilterConfig} (accepted : ∀ f ∈ filters, f.Accepted) :
    IsInert (whereText filters) := by
  cases filters with
  | nil => exact isInert_nil
  | cons first rest =>
    have others : IsInert ((rest.map conditionText).flatMap (" AND ".toList ++ ·)) := by
      rw [List.flatMap_map]
      exact .flatMap fun f mem => (isInert_of_isPlain (by decide)).append
        (isInert_conditionText (accepted f (List.mem_cons_of_mem _ mem)))
    rw [whereText, List.map_cons, Text.joined_cons]
    exact (isInert_of_isPlain (by decide)).append
      ((isInert_conditionText (accepted first List.mem_cons_self)).append others)

theorem isInert_limitText (limit : Option UInt64) : IsInert (limitText limit) := by
  unfold limitText
  split
  · exact (isInert_of_isPlain (by decide)).append (isInert_digits _)
  · exact isInert_nil

theorem isFree_statement {c : PipelineConfig} (accepted : c.Accepted) : IsFree (statement c) := by
  have lineEnd : IsInert ['\n'] := isInert_of_isPlain (by decide)
  have joins : IsInert ((c.joins.map joinText).flatMap ('\n' :: ·)) := by
    rw [List.flatMap_map]
    exact .flatMap fun j mem => lineEnd.append (isInert_joinText (accepted.joins j mem))
  have front : IsInert (front c) :=
    ((isInert_selectText accepted.mappings accepted.mapped).append
      (isInert_name accepted.base)).append joins
  rw [statement_eq]
  exact ((front.append (isInert_whereText accepted.filters)).append
    (isInert_limitText c.limit)) [] isFree_nil

/-- Neither a terminator nor the start of a comment occurs anywhere in a compiled statement. -/
theorem compile_excludes_sequences (config : PipelineConfig) (dialect : Dialect) (sql : String)
    (compiled : compile config dialect = .ok sql) :
    ∀ sequence ∈ [";", "--", "/*"], ¬ sequence.toList <:+: sql.toList := by
  obtain ⟨accepted, rfl⟩ := compile_eq_ok_iff.mp compiled
  rw [String.toList_ofList]
  exact isFree_statement accepted

/-- Expressions and values that almost have one of the sequences at each of their ends. -/
def brinkConfig : PipelineConfig where
  baseTable := "t"
  mappings := [⟨"id", "-t.id -"⟩, ⟨"lng", "* - / *"⟩]
  filters := [⟨"t.a", "<=", "-'- /"⟩]

theorem compile_excludes_sequences_brink :
    ∃ sql, compile brinkConfig .mysql = .ok sql ∧
      ∀ sequence ∈ [";", "--", "/*"], ¬ sequence.toList <:+: sql.toList := by
  have compiled : compile brinkConfig .mysql = .ok
      "SELECT\n    -t.id - AS id,\n    * - / * AS lng\nFROM t\nWHERE t.a <= '-''- /'" := by
    rfl
  exact ⟨_, compiled, compile_excludes_sequences brinkConfig .mysql _ compiled⟩

end Geoflow.Sql
