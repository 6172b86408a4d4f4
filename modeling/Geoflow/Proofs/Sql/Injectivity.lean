import Mathlib.Data.List.Forall2
import Geoflow.Proofs.Numeral
import Geoflow.Proofs.Sql.Literal

set_option autoImplicit false

namespace Geoflow

/-- Two texts of one class of characters, each before something else, end at the same place. -/
theorem append_inj_of_class {p : Char → Bool} {x y s t : List Char} (left : ∀ c ∈ x, p c = true)
    (right : ∀ c ∈ y, p c = true) (stop : ∀ c ∈ s.head?, p c = false)
    (stop' : ∀ c ∈ t.head?, p c = false) (same : x ++ s = y ++ t) : x = y ∧ s = t := by
  have front : ∀ {z r : List Char}, (∀ c ∈ z, p c = true) → (∀ c ∈ r.head?, p c = false) →
      (z ++ r).takeWhile p = z := by
    intro z r inside outside
    rw [List.takeWhile_append_of_pos inside]
    cases r with
    | nil => simp
    | cons c r => simp [outside c rfl]
  have equal : x = y := by
    rw [← front left stop, same, front right stop']
  subst equal
  exact ⟨rfl, List.append_cancel_left same⟩

namespace Sql

/-- A join is written as an inner one: its kind says so, in any letter case. -/
def IsInner (kind : String) : Prop := Text.capitals kind.toList = "INNER".toList

@[simp] theorem isNameChar_blank : isNameChar ' ' = false := by decide

@[simp] theorem isNameChar_lineEnd : isNameChar '\n' = false := by decide

theorem isNameChar_of_mem {name : String} (identifier : isIdentifier name = true) :
    ∀ c ∈ name.toList, isNameChar c = true := by
  rw [isIdentifier, Bool.and_eq_true] at identifier
  exact List.all_eq_true.mp identifier.2

theorem name_inj {x y : String} {s t : List Char} (left : isIdentifier x = true)
    (right : isIdentifier y = true) (stop : ∀ c ∈ s.head?, isNameChar c = false)
    (stop' : ∀ c ∈ t.head?, isNameChar c = false) (same : x.toList ++ s = y.toList ++ t) :
    x = y ∧ s = t := by
  obtain ⟨equal, rest⟩ := append_inj_of_class (isNameChar_of_mem left) (isNameChar_of_mem right)
    stop stop' same
  exact ⟨String.toList_inj.mp equal, rest⟩

theorem noBlank_of_allowed {operator : String} (allowed : operator ∈ allowedOperators) :
    ∀ c ∈ operator.toList, (c != ' ') = true := by
  simp only [allowedOperators, List.mem_cons, List.not_mem_nil, or_false] at allowed
  rcases allowed with rfl | rfl | rfl | rfl | rfl | rfl | rfl | rfl <;> simp

theorem joinWord_inj {k l : String} {s t : List Char} (same : joinWord k ++ s = joinWord l ++ t) :
    (IsInner k ↔ IsInner l) ∧ s = t := by
  unfold joinWord at same
  unfold IsInner
  split at same <;> split at same
  · simp_all
  · exact absurd (List.cons.inj same).1 (by decide)
  · exact absurd (List.cons.inj same).1 (by decide)
  · simp_all

end Sql

/-- What a statement says of a join. -/
structure JoinConfig.SameText (i j : JoinConfig) : Prop where
  inner : Sql.IsInner i.kind ↔ Sql.IsInner j.kind
  table : i.table = j.table
  onSource : i.onSource = j.onSource
  onTarget : i.onTarget = j.onTarget

/-- What a statement says of a filter. -/
structure FilterConfig.SameText (f g : FilterConfig) : Prop where
  column : f.column = g.column
  operator : Text.capitals (Text.trimmed f.operator.toList) =
    Text.capitals (Text.trimmed g.operator.toList)
  value : f.value = g.value

namespace Sql

theorem joinText_inj {i j : JoinConfig} {s t : List Char} (left : i.Accepted) (right : j.Accepted)
    (stop : ∀ c ∈ s.head?, isNameChar c = false) (stop' : ∀ c ∈ t.head?, isNameChar c = false)
    (same : joinText i ++ s = joinText j ++ t) : i.SameText j ∧ s = t := by
  simp only [joinText, List.append_assoc, List.cons_append] at same
  obtain ⟨inner, same⟩ := joinWord_inj same
  obtain ⟨table, same⟩ := name_inj left.1 right.1 (by simp) (by simp)
    (List.cons.inj same).2
  obtain ⟨source, same⟩ := name_inj left.2.1 right.2.1 (by simp) (by simp)
    (List.append_cancel_left same)
  obtain ⟨target, rest⟩ := name_inj left.2.2 right.2.2 stop stop' (List.append_cancel_left same)
  exact ⟨⟨inner, table, source, target⟩, rest⟩

theorem conditionText_inj {f g : FilterConfig} {s t : List Char} (left : f.Accepted)
    (right : g.Accepted) (stop : s.head? ≠ some '\'') (stop' : t.head? ≠ some '\'')
    (same : conditionText f ++ s = conditionText g ++ t) : f.SameText g ∧ s = t := by
  simp only [conditionText, conditionHead, List.append_assoc, List.cons_append,
    List.nil_append] at same
  obtain ⟨column, same⟩ := name_inj left.1 right.1 (by simp) (by simp) same
  obtain ⟨operator, same⟩ := append_inj_of_class (noBlank_of_allowed left.2.1)
    (noBlank_of_allowed right.2.1) (by simp) (by simp) (List.cons.inj same).2
  have same := (List.cons.inj same).2
  -- the PostgreSQL reading recovers the value and what follows it
  have read := (readLiteral_literal_iff .postgres f.value stop).mpr (Or.inl rfl)
  rw [same, (readLiteral_literal_iff .postgres g.value stop').mpr (Or.inl rfl)] at read
  obtain ⟨value, rest⟩ := Prod.mk.inj (Option.some.inj read)
  exact ⟨⟨column, String.ofList_injective (String.toList_inj.mp operator),
    (String.toList_inj.mp value).symm⟩, rest.symm⟩

theorem textAfter_cons (f : FilterConfig) (rest : List FilterConfig) (limit : Option UInt64) :
    textAfter (f :: rest) limit =
      " AND ".toList ++ (conditionText f ++ textAfter rest limit) := by
  simp only [textAfter, List.flatMap_cons, List.append_assoc]

theorem whereText_cons (f : FilterConfig) (rest : List FilterConfig) (limit : Option UInt64) :
    whereText (f :: rest) ++ limitText limit =
      "\nWHERE ".toList ++ (conditionText f ++ textAfter rest limit) := by
  simp only [whereText, List.isEmpty_cons, Bool.false_eq_true, ↓reduceIte, List.map_cons,
    Text.joined_cons, List.flatMap_map, textAfter, List.append_assoc]

/-- The first three characters tell a limit, a condition and a join apart. -/
theorem take_limitText (limit : Option UInt64) :
    (limitText limit).take 3 = [] ∨ (limitText limit).take 3 = ['\n', 'L', 'I'] := by
  unfold limitText
  split
  · exact Or.inr rfl
  · exact Or.inl rfl

theorem take_joinText (j : JoinConfig) (rest : List Char) :
    ('\n' :: (joinText j ++ rest)).take 3 = ['\n', 'I', 'N'] ∨
      ('\n' :: (joinText j ++ rest)).take 3 = ['\n', 'L', 'E'] := by
  unfold joinText joinWord
  split
  · exact Or.inl rfl
  · exact Or.inr rfl

theorem limitText_ne_where (limit : Option UInt64) (rest : List Char) :
    limitText limit ≠ "\nWHERE ".toList ++ rest := by
  intro same
  have start := congrArg (List.take 3) same
  rcases take_limitText limit with empty | text
  · exact absurd (empty.symm.trans start) (by simp)
  · exact absurd (text.symm.trans start) (by simp)

theorem limitText_ne_textAfter_cons (l : Option UInt64) (f : FilterConfig)
    (rest : List FilterConfig) (m : Option UInt64) : limitText l ≠ textAfter (f :: rest) m := by
  intro same
  have start := congrArg (List.take 3) same
  rw [textAfter_cons] at start
  rcases take_limitText l with empty | limit
  · exact absurd (empty.symm.trans start) (by simp)
  · exact absurd (limit.symm.trans start) (by simp)

theorem limitText_inj {l m : Option UInt64} (same : limitText l = limitText m) :
    effectiveLimit l = effectiveLimit m := by
  cases left : effectiveLimit l with
  | none =>
    cases right : effectiveLimit m with
    | none => rfl
    | some k => simp [limitText, left, right] at same
  | some n =>
    cases right : effectiveLimit m with
    | none => simp [limitText, left, right] at same
    | some k =>
      simp only [limitText, left, right] at same
      have digits := Numeral.digits_injective (List.append_cancel_left same)
      rw [UInt64.toNat_inj.mp digits]

theorem textAfter_inj {fs gs : List FilterConfig} {l m : Option UInt64}
    (left : ∀ f ∈ fs, f.Accepted) (right : ∀ g ∈ gs, g.Accepted)
    (same : textAfter fs l = textAfter gs m) :
    List.Forall₂ FilterConfig.SameText fs gs ∧ limitText l = limitText m := by
  induction fs generalizing gs with
  | nil =>
    cases gs with
    | nil => exact ⟨.nil, same⟩
    | cons g gs => exact absurd same (limitText_ne_textAfter_cons l g gs m)
  | cons f fs ih =>
    cases gs with
    | nil => exact absurd same.symm (limitText_ne_textAfter_cons m f fs l)
    | cons g gs =>
      rw [textAfter_cons, textAfter_cons] at same
      obtain ⟨text, rest⟩ := conditionText_inj (left f List.mem_cons_self)
        (right g List.mem_cons_self) (head?_textAfter fs l) (head?_textAfter gs m)
        (List.append_cancel_left same)
      obtain ⟨texts, limit⟩ := ih (fun f mem => left f (List.mem_cons_of_mem _ mem))
        (fun g mem => right g (List.mem_cons_of_mem _ mem)) rest
      exact ⟨.cons text texts, limit⟩

/-- The statement behind its joins: conditions and limit. -/
def textBehindJoins (c : PipelineConfig) : List Char := whereText c.filters ++ limitText c.limit

theorem take_textBehindJoins (c : PipelineConfig) :
    (textBehindJoins c).take 3 = [] ∨ (textBehindJoins c).take 3 = ['\n', 'L', 'I'] ∨
      (textBehindJoins c).take 3 = ['\n', 'W', 'H'] := by
  unfold textBehindJoins
  cases c.filters with
  | nil =>
    rcases take_limitText c.limit with empty | limit
    · exact Or.inl empty
    · exact Or.inr (Or.inl limit)
  | cons f rest =>
    rw [whereText_cons]
    exact Or.inr (Or.inr rfl)

theorem textBehindJoins_inj {a b : PipelineConfig} (left : a.Accepted) (right : b.Accepted)
    (same : textBehindJoins a = textBehindJoins b) :
    List.Forall₂ FilterConfig.SameText a.filters b.filters ∧
      effectiveLimit a.limit = effectiveLimit b.limit := by
  have acceptedLeft := left.filters
  have acceptedRight := right.filters
  unfold textBehindJoins at same
  cases inLeft : a.filters with
  | nil =>
    cases inRight : b.filters with
    | nil =>
      rw [inLeft, inRight] at same
      exact ⟨.nil, limitText_inj same⟩
    | cons g gs =>
      rw [inLeft, inRight, whereText_cons] at same
      exact absurd same (limitText_ne_where a.limit _)
  | cons f fs =>
    cases inRight : b.filters with
    | nil =>
      rw [inLeft, inRight, whereText_cons] at same
      exact absurd same.symm (limitText_ne_where b.limit _)
    | cons g gs =>
      rw [inLeft] at acceptedLeft
      rw [inRight] at acceptedRight
      rw [inLeft, inRight, whereText_cons, whereText_cons] at same
      have behind : textAfter (f :: fs) a.limit = textAfter (g :: gs) b.limit := by
        rw [textAfter_cons, textAfter_cons, List.append_cancel_left same]
      obtain ⟨texts, limit⟩ := textAfter_inj acceptedLeft acceptedRight behind
      exact ⟨texts, limitText_inj limit⟩

def textBehindBase (joins : List JoinConfig) (rest : List Char) : List Char :=
  (joins.map joinText).flatMap ('\n' :: ·) ++ rest

theorem textBehindBase_cons (j : JoinConfig) (joins : List JoinConfig) (rest : List Char) :
    textBehindBase (j :: joins) rest = '\n' :: (joinText j ++ textBehindBase joins rest) := by
  simp only [textBehindBase, List.map_cons, List.flatMap_cons, List.cons_append, List.append_assoc]

/-- No name goes on behind the joins. -/
theorem stop_textBehindBase (joins : List JoinConfig) (c : PipelineConfig) :
    ∀ x ∈ (textBehindBase joins (textBehindJoins c)).head?, isNameChar x = false := by
  cases joins with
  | nil =>
    change ∀ x ∈ (textBehindJoins c).head?, isNameChar x = false
    have first : (textBehindJoins c).head? = ((textBehindJoins c).take 3).head? := by
      cases textBehindJoins c <;> rfl
    rw [first]
    rcases take_textBehindJoins c with text | text | text <;> simp [text]
  | cons j joins =>
    rw [textBehindBase_cons]
    simp

theorem textBehindJoins_ne_join (c : PipelineConfig) (j : JoinConfig) (rest : List Char) :
    textBehindJoins c ≠ '\n' :: (joinText j ++ rest) := by
  intro same
  have start := congrArg (List.take 3) same
  rcases take_textBehindJoins c with text | text | text <;>
    rcases take_joinText j rest with join | join <;>
    exact absurd (text.symm.trans (start.trans join)) (by simp)

theorem textBehindBase_inj {is js : List JoinConfig} {a b : PipelineConfig}
    (left : ∀ i ∈ is, i.Accepted) (right : ∀ j ∈ js, j.Accepted)
    (same : textBehindBase is (textBehindJoins a) = textBehindBase js (textBehindJoins b)) :
    List.Forall₂ JoinConfig.SameText is js ∧ textBehindJoins a = textBehindJoins b := by
  induction is generalizing js with
  | nil =>
    cases js with
    | nil => exact ⟨.nil, same⟩
    | cons j js =>
      rw [textBehindBase_cons] at same
      exact absurd same (textBehindJoins_ne_join a j _)
  | cons i is ih =>
    cases js with
    | nil =>
      rw [textBehindBase_cons] at same
      exact absurd same.symm (textBehindJoins_ne_join b i _)
    | cons j js =>
      rw [textBehindBase_cons, textBehindBase_cons] at same
      obtain ⟨text, rest⟩ := joinText_inj (left i List.mem_cons_self) (right j List.mem_cons_self)
        (stop_textBehindBase is a) (stop_textBehindBase js b) (List.cons.inj same).2
      obtain ⟨texts, behind⟩ := ih (fun i mem => left i (List.mem_cons_of_mem _ mem))
        (fun j mem => right j (List.mem_cons_of_mem _ mem)) rest
      exact ⟨.cons text texts, behind⟩

theorem statement_behind_select (c : PipelineConfig) :
    statement c = selectText c.mappings ++
      (c.baseTable.toList ++ textBehindBase c.joins (textBehindJoins c)) := by
  simp only [statement_eq, front, textBehindBase, textBehindJoins, List.append_assoc]

/-- Two configurations with one select list and one statement have the same base table, and the same
joins, filters and limit as far as a statement says them. -/
theorem compile_determines (a b : PipelineConfig) (d e : Dialect) (sql : String)
    (mappings : a.mappings = b.mappings) (left : compile a d = .ok sql)
    (right : compile b e = .ok sql) :
    a.baseTable = b.baseTable ∧ List.Forall₂ JoinConfig.SameText a.joins b.joins ∧
      List.Forall₂ FilterConfig.SameText a.filters b.filters ∧
      a.limit.filter (0 < ·) = b.limit.filter (0 < ·) := by
  obtain ⟨acceptedLeft, rfl⟩ := compile_eq_ok_iff.mp left
  obtain ⟨acceptedRight, equal⟩ := compile_eq_ok_iff.mp right
  have same := String.ofList_injective equal
  rw [statement_behind_select, statement_behind_select, mappings] at same
  obtain ⟨base, behindBase⟩ := name_inj acceptedLeft.base acceptedRight.base
    (stop_textBehindBase a.joins a) (stop_textBehindBase b.joins b)
    (List.append_cancel_left same)
  obtain ⟨joins, behindJoins⟩ :=
    textBehindBase_inj acceptedLeft.joins acceptedRight.joins behindBase
  obtain ⟨filters, limit⟩ := textBehindJoins_inj acceptedLeft acceptedRight behindJoins
  exact ⟨base, joins, filters, limit⟩

/-- One extraction in several spellings; its filter value looks like the end of a statement. -/
def spelling (kind operator : String) (limit : Option UInt64) : PipelineConfig where
  baseTable := "t"
  joins := [⟨kind, "u", "t.u", "u.id"⟩]
  mappings := [⟨"id", "t.id"⟩]
  filters := [⟨"t.a", operator, "x' AND t.b = 'y\nLIMIT 1"⟩]
  limit := limit

theorem compile_determines_spelling :
    ∃ sql, compile (spelling "inner" " like " (some 7)) .postgres = .ok sql ∧
      compile (spelling "INNER" "LIKE" (some 7)) .mysql = .ok sql ∧
      List.Forall₂ JoinConfig.SameText (spelling "inner" " like " (some 7)).joins
        (spelling "INNER" "LIKE" (some 7)).joins ∧
      List.Forall₂ FilterConfig.SameText (spelling "inner" " like " (some 7)).filters
        (spelling "INNER" "LIKE" (some 7)).filters ∧
      (spelling "inner" " like " (some 7)).limit.filter (0 < ·) =
        (spelling "INNER" "LIKE" (some 7)).limit.filter (0 < ·) ∧
      (spelling "INNER" "LIKE" (some 7)).limit.filter (0 < ·) = some 7 := by
  have left : compile (spelling "inner" " like " (some 7)) .postgres = .ok
      ("SELECT\n    t.id AS id\nFROM t\nINNER JOIN u ON t.u = u.id\nWHERE t.a LIKE " ++
        "'x'' AND t.b = ''y\nLIMIT 1'\nLIMIT 7") := by rfl
  have right : compile (spelling "INNER" "LIKE" (some 7)) .mysql = .ok
      ("SELECT\n    t.id AS id\nFROM t\nINNER JOIN u ON t.u = u.id\nWHERE t.a LIKE " ++
        "'x'' AND t.b = ''y\nLIMIT 1'\nLIMIT 7") := by rfl
  obtain ⟨-, joins, filters, limit⟩ := compile_determines (spelling "inner" " like " (some 7))
    (spelling "INNER" "LIKE" (some 7)) .postgres .mysql _ rfl left right
  exact ⟨_, left, right, joins, filters, limit, rfl⟩

end Sql

end Geoflow
