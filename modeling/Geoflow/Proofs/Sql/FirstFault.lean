import Geoflow.Proofs.Sql.Statement

set_option autoImplicit false

namespace Geoflow

/-- A check that succeeds if there is no fault, and else reports the first one. -/
inductive Reports {ε α : Type} : List ε → Except ε α → Prop
  | ok (a : α) : Reports [] (.ok a)
  | error (e : ε) (later : List ε) : Reports (e :: later) (.error e)

section

variable {ε α β : Type} {x : Except ε α} {faults later : List ε}

theorem Reports.eq_error_iff (reports : Reports faults x) {e : ε} :
    x = .error e ↔ faults.head? = some e := by
  cases reports <;> simp

theorem Reports.bind {next : α → Except ε β} (reports : Reports faults x)
    (others : ∀ a, x = .ok a → Reports later (next a)) :
    Reports (faults ++ later) (x >>= next) := by
  cases reports with
  | ok a => exact others a rfl
  | error e rest => exact .error e (rest ++ later)

theorem Reports.map {next : α → Except ε β} {result : α → β} (reports : Reports faults x)
    (done : ∀ a, next a = .ok (result a)) : Reports faults (x >>= next) := by
  rw [← List.append_nil faults]
  refine reports.bind fun a _ => ?_
  rw [done a]
  exact .ok (result a)

theorem Reports.guard {refused : Prop} [Decidable refused] {e : ε} {next : Unit → Except ε β}
    (others : Reports later (next ())) :
    Reports ((if refused then [e] else []) ++ later)
      (if refused then (throw e >>= next) else next ()) := by
  split
  · exact .error e later
  · exact others

end

def FieldName.faults (field : FieldName) (found : Option Sql.FragmentFault) : List ExtractError :=
  (found.map fun fault => .validation field (.fragment fault)).toList

/-- What several items are at fault for, the first of them being number `i`. -/
def listedFaults {α : Type} (faults : α → Nat → List ExtractError) (i : Nat) (items : List α) :
    List ExtractError :=
  (items.zipIdx i).flatMap fun (item, index) => faults item index

theorem listedFaults_cons {α : Type} (faults : α → Nat → List ExtractError) (i : Nat) (item : α)
    (rest : List α) :
    listedFaults faults i (item :: rest) = faults item i ++ listedFaults faults (i + 1) rest := by
  rw [listedFaults, List.zipIdx_cons, List.flatMap_cons]
  rfl

theorem listedFaults_append {α : Type} (faults : α → Nat → List ExtractError) (i : Nat)
    (before after : List α) :
    listedFaults faults i (before ++ after) =
      listedFaults faults i before ++ listedFaults faults (i + before.length) after := by
  rw [listedFaults, List.zipIdx_append, List.flatMap_append]
  rfl

theorem listedFaults_eq_nil {α : Type} {faults : α → Nat → List ExtractError} {items : List α}
    (faultless : ∀ item ∈ items, ∀ i, faults item i = []) (i : Nat) :
    listedFaults faults i items = [] := by
  rw [listedFaults, List.flatMap_eq_nil_iff]
  exact fun entry mem => faultless entry.1 (List.fst_mem_of_mem_zipIdx mem) entry.2

theorem mem_listedFaults {α : Type} {faults : α → Nat → List ExtractError} {i : Nat}
    {items : List α} {e : ExtractError} (mem : e ∈ listedFaults faults i items) :
    ∃ item index, i ≤ index ∧ e ∈ faults item index := by
  obtain ⟨entry, inItems, found⟩ := List.mem_flatMap.mp mem
  exact ⟨entry.1, entry.2, (List.mem_zipIdx inItems).1, found⟩

@[simp] theorem FieldName.faults_none (field : FieldName) : field.faults none = [] := rfl

def ExtractError.field? : ExtractError → Option FieldName
  | .validation field _ => some field
  | _ => none

theorem FieldName.field?_of_mem_faults {field : FieldName} {found : Option Sql.FragmentFault}
    {e : ExtractError} (mem : e ∈ field.faults found) : e.field? = some field := by
  cases found with
  | none => cases mem
  | some fault =>
    rw [List.mem_singleton.mp mem]
    rfl

/-- A field is blamed if it is at fault, where nothing before it is and nothing after it has its
name. -/
theorem FieldName.head?_faults_append {field : FieldName} {found : Option Sql.FragmentFault}
    {later : List ExtractError} {fault : Sql.FragmentFault}
    (others : ∀ e ∈ later, e.field? ≠ some field) :
    (field.faults found ++ later).head? = some (.validation field (.fragment fault)) ↔
      found = some fault := by
  cases found with
  | none =>
    constructor
    · intro head
      exact absurd rfl (others _ (List.mem_of_mem_head? head))
    · intro absent
      cases absent
  | some first => simp [FieldName.faults]

namespace Sql

def identifierFault? (name : String) : Option FragmentFault :=
  if isIdentifier name then none else some (.invalidIdentifier name)

def operatorFault? (operator : String) : Option FragmentFault :=
  if normalOperator operator ∈ allowedOperators then none else some (.operatorNotAllowed operator)

end Sql

open Sql

def ColumnMapping.faults (m : ColumnMapping) (i : Nat) : List ExtractError :=
  FieldName.faults (.targetColumn i) (identifierFault? m.targetColumn)
    ++ FieldName.faults (.expression i) (expressionFault? m.expression.toList)

def JoinConfig.faults (j : JoinConfig) (i : Nat) : List ExtractError :=
  FieldName.faults (.joinTable i) (identifierFault? j.table)
    ++ FieldName.faults (.onSource i) (identifierFault? j.onSource)
    ++ FieldName.faults (.onTarget i) (identifierFault? j.onTarget)

def FilterConfig.faults (f : FilterConfig) (i : Nat) : List ExtractError :=
  FieldName.faults (.filterColumn i) (identifierFault? f.column)
    ++ FieldName.faults (.filterOperator i) (operatorFault? f.operator)
    ++ FieldName.faults (.filterValue i) (expressionFault? (doubleQuotes f.value.toList))

theorem ColumnMapping.field?_of_mem_faults {m : ColumnMapping} {i : Nat} {e : ExtractError}
    (mem : e ∈ m.faults i) :
    e.field? = some (.targetColumn i) ∨ e.field? = some (.expression i) := by
  rcases List.mem_append.mp mem with target | expression
  · exact Or.inl (FieldName.field?_of_mem_faults target)
  · exact Or.inr (FieldName.field?_of_mem_faults expression)

theorem JoinConfig.field?_of_mem_faults {j : JoinConfig} {i : Nat} {e : ExtractError}
    (mem : e ∈ j.faults i) :
    e.field? = some (.joinTable i) ∨ e.field? = some (.onSource i) ∨
      e.field? = some (.onTarget i) := by
  rcases List.mem_append.mp mem with first | target
  · rcases List.mem_append.mp first with table | source
    · exact Or.inl (FieldName.field?_of_mem_faults table)
    · exact Or.inr (Or.inl (FieldName.field?_of_mem_faults source))
  · exact Or.inr (Or.inr (FieldName.field?_of_mem_faults target))

theorem FilterConfig.field?_of_mem_faults {f : FilterConfig} {i : Nat} {e : ExtractError}
    (mem : e ∈ f.faults i) :
    e.field? = some (.filterColumn i) ∨ e.field? = some (.filterOperator i) ∨
      e.field? = some (.filterValue i) := by
  rcases List.mem_append.mp mem with first | value
  · rcases List.mem_append.mp first with column | operator
    · exact Or.inl (FieldName.field?_of_mem_faults column)
    · exact Or.inr (Or.inl (FieldName.field?_of_mem_faults operator))
  · exact Or.inr (Or.inr (FieldName.field?_of_mem_faults value))

/-- All faults of a configuration, in the order of the checks. -/
def PipelineConfig.faults (c : PipelineConfig) : List ExtractError :=
  (if c.baseTable.isEmpty then [.config .baseTableRequired] else [])
    ++ FieldName.faults .baseTable (identifierFault? c.baseTable)
    ++ (if c.mappings.isEmpty then [.config .mappingRequired] else [])
    ++ listedFaults ColumnMapping.faults 0 c.mappings
    ++ listedFaults JoinConfig.faults 0 c.joins
    ++ listedFaults FilterConfig.faults 0 c.filters

namespace Sql

theorem reports_identifier (field : FieldName) (name : String) :
    Reports (field.faults (identifierFault? name)) (inField field (checkIdentifier name)) := by
  unfold identifierFault? checkIdentifier
  split
  · exact .ok ()
  · exact .error _ []

theorem reports_expression (field : FieldName) (text : String) :
    Reports (field.faults (expressionFault? text.toList))
      (inField field (checkExpression text)) := by
  unfold checkExpression
  cases expressionFault? text.toList with
  | none => exact .ok ()
  | some fault => exact .error _ []

theorem reports_operator (field : FieldName) (operator : String) :
    Reports (field.faults (operatorFault? operator)) (inField field (checkOperator operator)) := by
  simp only [operatorFault?, checkOperator, List.contains_iff_mem]
  split
  · exact .ok _
  · exact .error _ []

theorem reports_selectColumns (i : Nat) (mappings : List ColumnMapping) :
    Reports (listedFaults ColumnMapping.faults i mappings) (selectColumns i mappings) := by
  induction mappings generalizing i with
  | nil => exact .ok []
  | cons m rest ih =>
    rw [listedFaults_cons, ColumnMapping.faults, List.append_assoc]
    refine (reports_identifier _ _).bind fun _ _ => (reports_expression _ _).bind fun _ _ => ?_
    exact (ih (i + 1)).map fun _ => rfl

theorem reports_joinClauses (i : Nat) (joins : List JoinConfig) :
    Reports (listedFaults JoinConfig.faults i joins) (joinClauses i joins) := by
  induction joins generalizing i with
  | nil => exact .ok []
  | cons j rest ih =>
    rw [listedFaults_cons, JoinConfig.faults, List.append_assoc, List.append_assoc]
    refine (reports_identifier _ _).bind fun _ _ => (reports_identifier _ _).bind fun _ _ =>
      (reports_identifier _ _).bind fun _ _ => ?_
    exact (ih (i + 1)).map fun _ => rfl

theorem reports_conditions (i : Nat) (filters : List FilterConfig) :
    Reports (listedFaults FilterConfig.faults i filters) (conditions i filters) := by
  induction filters generalizing i with
  | nil => exact .ok []
  | cons f rest ih =>
    have value := reports_expression (.filterValue i) (String.ofList (doubleQuotes f.value.toList))
    rw [String.toList_ofList] at value
    simp only [listedFaults_cons, FilterConfig.faults, List.append_assoc, conditions]
    refine (reports_identifier (.filterColumn i) f.column).bind fun _ _ => ?_
    refine (reports_operator (.filterOperator i) f.operator).bind fun _ _ => ?_
    refine value.bind fun _ _ => ?_
    exact (ih (i + 1)).map fun _ => rfl

/-- Compiling succeeds if there is no fault, and else reports the first one. -/
theorem reports_compile (c : PipelineConfig) (dialect : Dialect) :
    Reports c.faults (compile c dialect) := by
  simp only [PipelineConfig.faults, List.append_assoc, compile]
  refine Reports.guard ?_
  refine (reports_identifier _ _).bind fun _ _ => ?_
  refine Reports.guard ?_
  refine (reports_selectColumns 0 _).bind fun _ _ => (reports_joinClauses 0 _).bind fun _ _ => ?_
  exact (reports_conditions 0 _).map fun _ => rfl

theorem identifierFault?_of_isIdentifier {name : String} (identifier : isIdentifier name = true) :
    identifierFault? name = none := by
  rw [identifierFault?, if_pos identifier]

theorem isEmpty_of_isIdentifier {name : String} (identifier : isIdentifier name = true) :
    ¬ name.isEmpty = true := by
  intro empty
  rw [String.isEmpty_iff.mp empty] at identifier
  exact absurd identifier (by decide)

end Sql

theorem ColumnMapping.Accepted.faults_eq_nil {m : ColumnMapping} (accepted : m.Accepted) (i : Nat) :
    m.faults i = [] := by
  rw [ColumnMapping.faults, identifierFault?_of_isIdentifier accepted.1, accepted.2]
  rfl

theorem JoinConfig.Accepted.faults_eq_nil {j : JoinConfig} (accepted : j.Accepted) (i : Nat) :
    j.faults i = [] := by
  rw [JoinConfig.faults, identifierFault?_of_isIdentifier accepted.1,
    identifierFault?_of_isIdentifier accepted.2.1, identifierFault?_of_isIdentifier accepted.2.2]
  rfl

theorem FilterConfig.Accepted.faults_eq_nil {f : FilterConfig} (accepted : f.Accepted) (i : Nat) :
    f.faults i = [] := by
  rw [FilterConfig.faults, identifierFault?_of_isIdentifier accepted.1, operatorFault?,
    if_pos accepted.2.1, accepted.2.2]
  rfl

/-- All that is checked before the expression of a mapping is accepted. -/
structure PipelineConfig.ReachesExpression (c : PipelineConfig) (earlier : List ColumnMapping)
    (m : ColumnMapping) (later : List ColumnMapping) : Prop where
  split : c.mappings = earlier ++ m :: later
  base : isIdentifier c.baseTable = true
  mappings : ∀ other ∈ earlier, other.Accepted
  target : isIdentifier m.targetColumn = true

/-- All that is checked before the value of a filter is accepted. -/
structure PipelineConfig.ReachesValue (c : PipelineConfig) (earlier : List FilterConfig)
    (f : FilterConfig) (later : List FilterConfig) : Prop where
  split : c.filters = earlier ++ f :: later
  base : isIdentifier c.baseTable = true
  mapped : c.mappings ≠ []
  mappings : ∀ m ∈ c.mappings, m.Accepted
  joins : ∀ j ∈ c.joins, j.Accepted
  filters : ∀ other ∈ earlier, other.Accepted
  column : isIdentifier f.column = true
  operator : normalOperator f.operator ∈ allowedOperators

namespace Sql

variable {c : PipelineConfig} {dialect : Dialect} {fault : FragmentFault}

/-- An expression is blamed exactly for what its own check finds. -/
theorem compile_blames_expression_iff {earlier later : List ColumnMapping} {m : ColumnMapping}
    (reached : c.ReachesExpression earlier m later) :
    compile c dialect = .error (.validation (.expression earlier.length) (.fragment fault)) ↔
      expressionFault? m.expression.toList = some fault := by
  have mapped : ¬ c.mappings.isEmpty = true := by simp [reached.split]
  have none : listedFaults ColumnMapping.faults 0 earlier = [] :=
    listedFaults_eq_nil (fun other mem => (reached.mappings other mem).faults_eq_nil) 0
  rw [(reports_compile c dialect).eq_error_iff, PipelineConfig.faults,
    if_neg (isEmpty_of_isIdentifier reached.base), identifierFault?_of_isIdentifier reached.base,
    if_neg mapped, reached.split, listedFaults_append, none, listedFaults_cons, Nat.zero_add,
    ColumnMapping.faults, identifierFault?_of_isIdentifier reached.target]
  simp only [FieldName.faults_none, List.nil_append, List.append_assoc]
  apply FieldName.head?_faults_append
  intro e mem named
  rcases List.mem_append.mp mem with mapping | behind
  · obtain ⟨_, index, after, found⟩ := mem_listedFaults mapping
    rcases ColumnMapping.field?_of_mem_faults found with field | field <;>
      rw [field] at named <;> injection named with same
    · cases same
    · have index_eq := FieldName.expression.inj same
      omega
  · rcases List.mem_append.mp behind with join | filter
    · obtain ⟨_, _, -, found⟩ := mem_listedFaults join
      rcases JoinConfig.field?_of_mem_faults found with field | field | field <;>
        rw [field] at named <;> cases named
    · obtain ⟨_, _, -, found⟩ := mem_listedFaults filter
      rcases FilterConfig.field?_of_mem_faults found with field | field | field <;>
        rw [field] at named <;> cases named

/-- A filter value is blamed exactly for what the check of its doubled text finds. -/
theorem compile_blames_value_iff {earlier later : List FilterConfig} {f : FilterConfig}
    (reached : c.ReachesValue earlier f later) :
    compile c dialect = .error (.validation (.filterValue earlier.length) (.fragment fault)) ↔
      expressionFault? (doubleQuotes f.value.toList) = some fault := by
  have mapped : ¬ c.mappings.isEmpty = true := by simp [reached.mapped]
  have mappings : listedFaults ColumnMapping.faults 0 c.mappings = [] :=
    listedFaults_eq_nil (fun m mem => (reached.mappings m mem).faults_eq_nil) 0
  have joins : listedFaults JoinConfig.faults 0 c.joins = [] :=
    listedFaults_eq_nil (fun j mem => (reached.joins j mem).faults_eq_nil) 0
  have filters : listedFaults FilterConfig.faults 0 earlier = [] :=
    listedFaults_eq_nil (fun other mem => (reached.filters other mem).faults_eq_nil) 0
  rw [(reports_compile c dialect).eq_error_iff, PipelineConfig.faults,
    if_neg (isEmpty_of_isIdentifier reached.base), identifierFault?_of_isIdentifier reached.base,
    if_neg mapped, mappings, joins, reached.split, listedFaults_append, filters,
    listedFaults_cons, Nat.zero_add, FilterConfig.faults,
    identifierFault?_of_isIdentifier reached.column, operatorFault?, if_pos reached.operator]
  simp only [FieldName.faults_none, List.nil_append]
  apply FieldName.head?_faults_append
  intro e mem named
  obtain ⟨_, index, after, found⟩ := mem_listedFaults mem
  rcases FilterConfig.field?_of_mem_faults found with field | field | field <;>
    rw [field] at named <;> injection named with same
  · cases same
  · cases same
  · have index_eq := FieldName.filterValue.inj same
    omega

end Sql

end Geoflow
