import Geoflow.Proofs.Sql.FirstFault
import Geoflow.Proofs.Sql.Fragment
import Geoflow.Proofs.Text.Fields

set_option autoImplicit false

namespace Geoflow

namespace Sql

/-- The first forbidden thing in a text: a sequence, or an entry of the block list where there is
no sequence, and of either kind the first of its list. -/
inductive FirstForbidden (cs : List Char) : FragmentFault → Prop
  | sequence {before after : List String} {mark : String}
      (listed : forbiddenSequences = before ++ mark :: after)
      (absent : ∀ other ∈ before, ¬ other.toList <:+: cs) (found : mark.toList <:+: cs) :
      FirstForbidden cs (.forbiddenSequence mark)
  | keyword {before after : List String} {entry : String} (free : IsFree cs)
      (listed : forbiddenKeywords = before ++ entry :: after)
      (absent : ∀ other ∈ before, ¬ other.toList <:+: Text.capitals cs)
      (found : entry.toList <:+: Text.capitals cs) :
      FirstForbidden cs (.forbiddenKeyword (Text.trim entry))

/-- One check of a configuration. -/
inductive Check where
  /-- A part that must be there. -/
  | given (fault : ConfigFault) (present : Bool)
  | identifier (field : FieldName) (name : String)
  | expression (field : FieldName) (text : String)
  | operator (field : FieldName) (text : String)

namespace Check

def field? : Check → Option FieldName
  | .given .. => none
  | .identifier field _ => some field
  | .expression field _ => some field
  | .operator field _ => some field

/-- What a check that fails has to say. -/
inductive Blames : Check → ExtractError → Prop
  | given (fault : ConfigFault) (present : Bool) : Blames (.given fault present) (.config fault)
  | identifier (field : FieldName) (name : String) :
      Blames (.identifier field name) (.validation field (.fragment (.invalidIdentifier name)))
  | expression {field : FieldName} {text : String} {fault : FragmentFault}
      (first : FirstForbidden text.toList fault) :
      Blames (.expression field text) (.validation field (.fragment fault))
  | operator (field : FieldName) (text : String) :
      Blames (.operator field text) (.validation field (.fragment (.operatorNotAllowed text)))

def faults : Check → List ExtractError
  | .given fault present => if present = true then [] else [.config fault]
  | .identifier field name => field.faults (identifierFault? name)
  | .expression field text => field.faults (expressionFault? text.toList)
  | .operator field text => field.faults (operatorFault? text)

end Check

end Sql

open Sql

/-- An error that names a field, or that is about the configuration as a whole. -/
def ExtractError.Names (e : ExtractError) : Option FieldName → Prop
  | none => e.code = "CONFIG_ERROR"
  | some field => e.code = "VALIDATION_ERROR" ∧
      ∃ reason, e.message = "Validation error in " ++ field.text ++ ": " ++ reason

theorem Sql.Check.Blames.names {k : Check} {e : ExtractError} (blames : k.Blames e) :
    e.Names k.field? := by
  cases blames with
  | given fault present => exact rfl
  | identifier field name => exact ⟨rfl, _, rfl⟩
  | expression first => exact ⟨rfl, _, rfl⟩
  | operator field text => exact ⟨rfl, _, rfl⟩

def ColumnMapping.checks (m : ColumnMapping) (i : Nat) : List Check :=
  [.identifier (.targetColumn i) m.targetColumn, .expression (.expression i) m.expression]

def JoinConfig.checks (j : JoinConfig) (i : Nat) : List Check :=
  [.identifier (.joinTable i) j.table, .identifier (.onSource i) j.onSource,
    .identifier (.onTarget i) j.onTarget]

def FilterConfig.checks (f : FilterConfig) (i : Nat) : List Check :=
  [.identifier (.filterColumn i) f.column, .operator (.filterOperator i) f.operator,
    .expression (.filterValue i) f.value]

/-- The checks of listed items, the first of them being number zero. -/
def listedChecks {α : Type} (checks : α → Nat → List Check) (items : List α) : List Check :=
  items.zipIdx.flatMap fun (item, i) => checks item i

namespace PipelineConfig

/-- All checks of a configuration, in their order. -/
def checks (c : PipelineConfig) : List Check :=
  [.given .baseTableRequired (!c.baseTable.isEmpty), .identifier .baseTable c.baseTable,
      .given .mappingRequired (!c.mappings.isEmpty)]
    ++ listedChecks ColumnMapping.checks c.mappings
    ++ listedChecks JoinConfig.checks c.joins
    ++ listedChecks FilterConfig.checks c.filters

end PipelineConfig

/-- The second mapping is refused for its expression, and the join behind it is not looked at. -/
example :
    let config : PipelineConfig :=
      ⟨"t", [⟨"INNER", "", "", ""⟩], [⟨"id", "t.id"⟩, ⟨"name", "t.name; --"⟩], [], none⟩
    (compile config .mysql).mapError ExtractError.message =
      .error "Validation error in mappings[1].expression: forbidden character sequence `;`" := by
  decide +kernel

end Geoflow
