import Geoflow.Proofs.Sql.Fragment

set_option autoImplicit false

namespace Geoflow.Sql

/-- The check of expressions refuses a text. -/
def Rejects (text : String) : Prop := ∃ fault, checkExpression text = .error fault

def quotesDoubled (text : String) : String := String.ofList (doubleQuotes text.toList)

theorem rejects_iff {text : String} : Rejects text ↔ expressionFault? text.toList ≠ none := by
  rw [Rejects, checkExpression]
  cases expressionFault? text.toList <;> simp

/-- What stands around a part does not make it acceptable. -/
theorem Rejects.of_part {part text : String} (rejects : Rejects part)
    (inside : part.toList <:+: text.toList) : Rejects text := by
  rw [rejects_iff] at rejects ⊢
  intro accepted
  exact rejects (expressionFault?_eq_none_of_part inside accepted)

theorem checkExpression_quotesDoubled (text : String) :
    checkExpression (quotesDoubled text) = checkExpression text := by
  rw [checkExpression, checkExpression, quotesDoubled, String.toList_ofList,
    expressionFault?_doubleQuotes]

/-- The conditions of filters if a given form of each value is checked; it is written as ever. -/
def conditionsChecking (form : String → String) :
    Nat → List FilterConfig → Except ExtractError (List (List Char))
  | _, [] => .ok []
  | i, f :: rest => do
    inField (.filterColumn i) (checkIdentifier f.column)
    let operator ← inField (.filterOperator i) (checkOperator f.operator)
    inField (.filterValue i) (checkExpression (form f.value))
    let others ← conditionsChecking form (i + 1) rest
    return (f.column.toList ++ ' ' :: operator.toList ++ ' ' :: '\'' ::
      doubleQuotes f.value.toList ++ ['\'']) :: others

/-- The statement of a pipeline if a given form of the filter values is checked. -/
def compileChecking (form : String → String) (config : PipelineConfig) :
    Except ExtractError String := do
  if config.baseTable.isEmpty then throw (.config .baseTableRequired)
  inField .baseTable (checkIdentifier config.baseTable)
  if config.mappings.isEmpty then throw (.config .mappingRequired)
  let columns ← selectColumns 0 config.mappings
  let joins ← joinClauses 0 config.joins
  let filters ← conditionsChecking form 0 config.filters
  return String.ofList (assemble config.baseTable.toList columns joins filters config.limit)

variable {form : String → String}

/-- A form that the check does not tell from the value itself gives the same conditions. -/
theorem conditionsChecking_eq (same : ∀ value, checkExpression (form value) = checkExpression value)
    (i : Nat) (filters : List FilterConfig) :
    conditionsChecking form i filters = conditions i filters := by
  induction filters generalizing i with
  | nil => rfl
  | cons f rest ih =>
    have doubled := checkExpression_quotesDoubled f.value
    rw [quotesDoubled] at doubled
    simp only [conditionsChecking, conditions, same, doubled, ih]

theorem compileChecking_eq (same : ∀ value, checkExpression (form value) = checkExpression value)
    (config : PipelineConfig) (dialect : Dialect) :
    compileChecking form config = compile config dialect := by
  simp only [compileChecking, compile, conditionsChecking_eq same]

/-- A refused text stays refused with any text before and behind it. A text with its quotes doubled
has the outcome of the text itself, so the statement of a pipeline or its error is the same whether
filter values are checked as they are given or with their quotes doubled. -/
theorem checkExpression_in_context (before part after value : String) (config : PipelineConfig)
    (dialect : Dialect) :
    (Rejects part → Rejects (before ++ part ++ after)) ∧
      checkExpression (quotesDoubled value) = checkExpression value ∧
      compileChecking id config = compile config dialect ∧
      compileChecking quotesDoubled config = compile config dialect := by
  refine ⟨?_, checkExpression_quotesDoubled value, ?_, ?_⟩
  · intro rejects
    apply rejects.of_part
    simp only [String.toList_append]
    exact List.infix_append _ _ _
  · exact compileChecking_eq (fun _ => rfl) config dialect
  · exact compileChecking_eq checkExpression_quotesDoubled config dialect

/-- A long s is an S in capitals, wherever the word stands. -/
theorem checkExpression_in_context_long_s :
    Rejects "ſelect " ∧ Rejects ("x = (" ++ "ſelect " ++ "1)") := by
  have rejects : Rejects "ſelect " := ⟨.forbiddenKeyword "SELECT", by decide +kernel⟩
  have whole := checkExpression_in_context "x = (" "ſelect " "1)" "" ⟨"", [], [], [], none⟩ .mysql
  exact ⟨rejects, whole.1 rejects⟩

/-- Doubled quotes hide no keyword between them. -/
example : checkExpression (quotesDoubled "it's into") = .error (.forbiddenKeyword "INTO") := by
  decide +kernel

end Geoflow.Sql
