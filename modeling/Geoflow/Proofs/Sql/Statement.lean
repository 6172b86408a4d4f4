import Geoflow.Proofs.Outcome
import Geoflow.Sql.Statement

set_option autoImplicit false

namespace Geoflow

def ColumnMapping.Accepted (m : ColumnMapping) : Prop :=
  Sql.isIdentifier m.targetColumn = true ∧ Sql.expressionFault? m.expression.toList = none

def JoinConfig.Accepted (j : JoinConfig) : Prop :=
  Sql.isIdentifier j.table = true ∧ Sql.isIdentifier j.onSource = true ∧
    Sql.isIdentifier j.onTarget = true

/-- What each check of a filter asks; the value is checked with its quotes doubled. -/
def FilterConfig.Accepted (f : FilterConfig) : Prop :=
  Sql.isIdentifier f.column = true ∧ Sql.normalOperator f.operator ∈ Sql.allowedOperators ∧
    Sql.expressionFault? (Sql.doubleQuotes f.value.toList) = none

instance (m : ColumnMapping) : Decidable m.Accepted := inferInstanceAs (Decidable (_ ∧ _))

instance (j : JoinConfig) : Decidable j.Accepted := inferInstanceAs (Decidable (_ ∧ _))

instance (f : FilterConfig) : Decidable f.Accepted := inferInstanceAs (Decidable (_ ∧ _))

/-- What all checks of a configuration ask. -/
structure PipelineConfig.Accepted (c : PipelineConfig) : Prop where
  base : Sql.isIdentifier c.baseTable = true
  mapped : c.mappings ≠ []
  mappings : ∀ m ∈ c.mappings, m.Accepted
  joins : ∀ j ∈ c.joins, j.Accepted
  filters : ∀ f ∈ c.filters, f.Accepted

theorem Text.joined_cons (separator part : List Char) (rest : List (List Char)) :
    Text.joined separator (part :: rest) = part ++ rest.flatMap (separator ++ ·) := by
  induction rest generalizing part with
  | nil => simp [Text.joined]
  | cons next rest ih => simp [Text.joined, ih]

/-- One of several joined parts, with the separators on its two sides. -/
theorem Text.joined_append_cons (separator part : List Char) (before after : List (List Char)) :
    Text.joined separator (before ++ part :: after) =
      before.flatMap (· ++ separator) ++ part ++ after.flatMap (separator ++ ·) := by
  induction before with
  | nil => simp [Text.joined_cons]
  | cons first before ih =>
    have tail : (before ++ part :: after).flatMap (separator ++ ·) =
        separator ++ Text.joined separator (before ++ part :: after) := by
      cases before with
      | nil => simp [Text.joined_cons]
      | cons second before => simp [Text.joined_cons]
    rw [List.cons_append, Text.joined_cons, tail, ih]
    simp

namespace Sql

def columnText (m : ColumnMapping) : List Char :=
  m.expression.toList ++ " AS ".toList ++ m.targetColumn.toList

def joinText (j : JoinConfig) : List Char :=
  joinWord j.kind ++ ' ' :: j.table.toList ++ " ON ".toList ++ j.onSource.toList
    ++ " = ".toList ++ j.onTarget.toList

/-- A condition up to the literal. -/
def conditionHead (f : FilterConfig) : List Char :=
  f.column.toList ++ ' ' :: (normalOperator f.operator).toList ++ [' ']

def literal (value : String) : List Char := '\'' :: doubleQuotes value.toList ++ ['\'']

def conditionText (f : FilterConfig) : List Char := conditionHead f ++ literal f.value

/-- The statement that a configuration becomes, whether or not it is accepted. -/
def statement (c : PipelineConfig) : List Char :=
  assemble c.baseTable.toList (c.mappings.map columnText) (c.joins.map joinText)
    (c.filters.map conditionText) c.limit

def selectText (mappings : List ColumnMapping) : List Char :=
  "SELECT\n    ".toList ++ Text.joined ",\n    ".toList (mappings.map columnText)
    ++ "\nFROM ".toList

def front (c : PipelineConfig) : List Char :=
  selectText c.mappings ++ c.baseTable.toList ++ (c.joins.map joinText).flatMap ('\n' :: ·)

def whereText (filters : List FilterConfig) : List Char :=
  if filters.isEmpty then []
  else "\nWHERE ".toList ++ Text.joined " AND ".toList (filters.map conditionText)

def limitText (limit : Option UInt64) : List Char :=
  match effectiveLimit limit with
  | some n => "\nLIMIT ".toList ++ Numeral.digits n.toNat
  | none => []

theorem statement_eq (c : PipelineConfig) :
    statement c = front c ++ whereText c.filters ++ limitText c.limit := by
  unfold statement assemble front selectText whereText limitText
  cases effectiveLimit c.limit with
  | none => rw [List.isEmpty_map]
  | some n => rw [List.isEmpty_map]

/-- The statement behind the closing quote of a filter, before the filters after it. -/
def textAfter (after : List FilterConfig) (limit : Option UInt64) : List Char :=
  after.flatMap (" AND ".toList ++ conditionText ·) ++ limitText limit

/-- What follows a literal is a blank, a line end, or nothing. -/
theorem head?_textAfter (after : List FilterConfig) (limit : Option UInt64) :
    (textAfter after limit).head? ≠ some '\'' := by
  cases after with
  | nil =>
    simp only [textAfter, limitText, List.flatMap_nil, List.nil_append]
    split <;> simp
  | cons f rest => simp [textAfter]

theorem inField_eq_ok_iff {α : Type} {field : FieldName} {x : Except FragmentFault α} {a : α} :
    inField field x = .ok a ↔ x = .ok a := by
  cases x <;> simp [inField]

theorem checkIdentifier_eq_ok_iff {s : String} {u : Unit} :
    checkIdentifier s = .ok u ↔ isIdentifier s = true := by
  simp [checkIdentifier]

theorem checkExpression_eq_ok_iff {s : String} {u : Unit} :
    checkExpression s = .ok u ↔ expressionFault? s.toList = none := by
  unfold checkExpression
  split <;> simp_all

theorem checkOperator_eq_ok_iff {s normal : String} :
    checkOperator s = .ok normal ↔
      normalOperator s ∈ allowedOperators ∧ normal = normalOperator s := by
  simp only [checkOperator, List.contains_iff_mem]
  split
  · simp_all [eq_comm]
  · simp_all

theorem selectColumns_eq_ok_iff {i : Nat} {mappings : List ColumnMapping}
    {columns : List (List Char)} :
    selectColumns i mappings = .ok columns ↔
      (∀ m ∈ mappings, m.Accepted) ∧ columns = mappings.map columnText := by
  induction mappings generalizing i columns with
  | nil => simp [selectColumns, eq_comm]
  | cons m rest ih =>
    simp only [selectColumns, bind_eq_ok_iff, inField_eq_ok_iff, checkIdentifier_eq_ok_iff,
      checkExpression_eq_ok_iff, ih, List.forall_mem_cons, List.map_cons]
    constructor
    · rintro ⟨-, name, -, expression, others, ⟨accepted, rfl⟩, equal⟩
      exact ⟨⟨⟨name, expression⟩, accepted⟩, (Except.ok.inj equal).symm⟩
    · rintro ⟨⟨⟨name, expression⟩, accepted⟩, rfl⟩
      exact ⟨(), name, (), expression, _, ⟨accepted, rfl⟩, rfl⟩

theorem joinClauses_eq_ok_iff {i : Nat} {joins : List JoinConfig} {clauses : List (List Char)} :
    joinClauses i joins = .ok clauses ↔
      (∀ j ∈ joins, j.Accepted) ∧ clauses = joins.map joinText := by
  induction joins generalizing i clauses with
  | nil => simp [joinClauses, eq_comm]
  | cons j rest ih =>
    simp only [joinClauses, bind_eq_ok_iff, inField_eq_ok_iff, checkIdentifier_eq_ok_iff, ih,
      List.forall_mem_cons, List.map_cons]
    constructor
    · rintro ⟨-, table, -, source, -, target, others, ⟨accepted, rfl⟩, equal⟩
      exact ⟨⟨⟨table, source, target⟩, accepted⟩, (Except.ok.inj equal).symm⟩
    · rintro ⟨⟨⟨table, source, target⟩, accepted⟩, rfl⟩
      exact ⟨(), table, (), source, (), target, _, ⟨accepted, rfl⟩, rfl⟩

theorem conditions_eq_ok_iff {i : Nat} {filters : List FilterConfig} {texts : List (List Char)} :
    conditions i filters = .ok texts ↔
      (∀ f ∈ filters, f.Accepted) ∧ texts = filters.map conditionText := by
  induction filters generalizing i texts with
  | nil => simp [conditions, eq_comm]
  | cons f rest ih =>
    simp only [conditions, bind_eq_ok_iff, inField_eq_ok_iff, checkIdentifier_eq_ok_iff,
      checkOperator_eq_ok_iff, checkExpression_eq_ok_iff, String.toList_ofList, ih,
      List.forall_mem_cons, List.map_cons]
    constructor
    · rintro ⟨-, column, _, ⟨operator, rfl⟩, -, value, others, ⟨accepted, rfl⟩, equal⟩
      refine ⟨⟨⟨column, operator, value⟩, accepted⟩, ?_⟩
      rw [← Except.ok.inj equal]
      simp [conditionText, conditionHead, literal]
    · rintro ⟨⟨⟨column, operator, value⟩, accepted⟩, rfl⟩
      refine ⟨(), column, _, ⟨operator, rfl⟩, (), value, _, ⟨accepted, rfl⟩, ?_⟩
      simp [conditionText, conditionHead, literal, pure, Except.pure]

/-- A configuration is compiled exactly if it is accepted, and to its statement. -/
theorem compile_eq_ok_iff {config : PipelineConfig} {dialect : Dialect} {sql : String} :
    compile config dialect = .ok sql ↔
      config.Accepted ∧ sql = String.ofList (statement config) := by
  simp only [compile, guard_eq_ok_iff, bind_eq_ok_iff, inField_eq_ok_iff,
    checkIdentifier_eq_ok_iff, selectColumns_eq_ok_iff, joinClauses_eq_ok_iff,
    conditions_eq_ok_iff, List.isEmpty_iff]
  constructor
  · rintro ⟨-, -, base, mapped, _, ⟨mappings, rfl⟩, _, ⟨joins, rfl⟩, _, ⟨filters, rfl⟩, equal⟩
    exact ⟨⟨base, mapped, mappings, joins, filters⟩, (Except.ok.inj equal).symm⟩
  · rintro ⟨accepted, rfl⟩
    have named : ¬ config.baseTable.isEmpty = true := by
      intro empty
      have base := accepted.base
      rw [String.isEmpty_iff.mp empty] at base
      exact absurd base (by decide)
    exact ⟨named, (), accepted.base, accepted.mapped, _, ⟨accepted.mappings, rfl⟩, _,
      ⟨accepted.joins, rfl⟩, _, ⟨accepted.filters, rfl⟩, rfl⟩

end Sql

end Geoflow
