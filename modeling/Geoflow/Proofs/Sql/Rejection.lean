import Geoflow.Proofs.Sql.FirstFault

set_option autoImplicit false

namespace Geoflow

namespace ExtractError

/-- An error about what a document says, and not about carrying it out. -/
def IsAboutDocument : ExtractError → Prop
  | .config _ => True
  | .validation .. => True
  | _ => False

end ExtractError

namespace Sql

variable {c : PipelineConfig} {document : Json} {dialect : Dialect} {e : ExtractError}

theorem isAboutDocument_of_field? {field : FieldName} (named : e.field? = some field) :
    e.IsAboutDocument := by
  cases e with
  | validation => trivial
  | config | connection | execution | consumer | cancelled => cases named

theorem isAboutDocument_of_mem_faults (mem : e ∈ c.faults) : e.IsAboutDocument := by
  have config : ∀ {refused : Prop} [Decidable refused] {fault : ConfigFault},
      e ∈ (if refused then [ExtractError.config fault] else []) → e.IsAboutDocument := by
    intro refused _ fault mem
    split at mem
    · rw [List.mem_singleton.mp mem]
      trivial
    · cases mem
  simp only [PipelineConfig.faults, List.mem_append] at mem
  rcases mem with ((((mem | mem) | mem) | mem) | mem) | mem
  · exact config mem
  · exact isAboutDocument_of_field? (FieldName.field?_of_mem_faults mem)
  · exact config mem
  · obtain ⟨m, index, -, found⟩ := mem_listedFaults mem
    rcases ColumnMapping.field?_of_mem_faults found with field | field <;>
      exact isAboutDocument_of_field? field
  · obtain ⟨j, index, -, found⟩ := mem_listedFaults mem
    rcases JoinConfig.field?_of_mem_faults found with field | field | field <;>
      exact isAboutDocument_of_field? field
  · obtain ⟨f, index, -, found⟩ := mem_listedFaults mem
    rcases FilterConfig.field?_of_mem_faults found with field | field | field <;>
      exact isAboutDocument_of_field? field

theorem compile_eq (c : PipelineConfig) (dialect : Dialect) : compile c dialect =
    match c.faults.head? with
    | some e => .error e
    | none => .ok (String.ofList (statement c)) := by
  have reports := reports_compile c dialect
  cases compiled : compile c dialect with
  | error e => rw [reports.eq_error_iff.mp compiled]
  | ok sql =>
    cases head : c.faults.head? with
    | none => rw [(compile_eq_ok_iff.mp compiled).2]
    | some e =>
      rw [reports.eq_error_iff.mpr head] at compiled
      cases compiled

theorem isAboutDocument_of_compile (refused : compile c dialect = .error e) : e.IsAboutDocument :=
  isAboutDocument_of_mem_faults
    (List.mem_of_mem_head? ((reports_compile c dialect).eq_error_iff.mp refused))

theorem isAboutDocument_of_readConfig (unreadable : readConfig document = .error e) :
    e.IsAboutDocument := by
  unfold readConfig at unreadable
  split at unreadable
  · cases unreadable
  · cases unreadable
    trivial

theorem isAboutDocument_of_compileDocument (refused : compileDocument document dialect = .error e) :
    e.IsAboutDocument := by
  unfold compileDocument at refused
  cases read : readConfig document with
  | error fault =>
    rw [read] at refused
    cases refused
    exact isAboutDocument_of_readConfig read
  | ok config =>
    rw [read] at refused
    have compiled : compile config dialect = .error e := refused
    exact isAboutDocument_of_compile compiled

/-- What is written under a limit of some rows is what is written without one, and the limit. -/
theorem compile_limited (c : PipelineConfig) (dialect : Dialect) {n : UInt64} (positive : 0 < n) :
    compile { c with limit := some n } dialect = (compile { c with limit := none } dialect).map
      fun sql => sql ++ "\nLIMIT " ++ Numeral.ofNat n.toNat := by
  have faults : ({ c with limit := some n } : PipelineConfig).faults =
    ({ c with limit := none } : PipelineConfig).faults := rfl
  have limit : limitText (some n) = "\nLIMIT ".toList ++ Numeral.digits n.toNat := by
    simp only [limitText, effectiveLimit, Option.filter_some, decide_eq_true positive, if_true]
  rw [compile_eq, compile_eq, faults]
  cases ({ c with limit := none } : PipelineConfig).faults.head? with
  | some e => rfl
  | none =>
    have text : statement { c with limit := some n } =
        statement { c with limit := none } ++ ("\nLIMIT ".toList ++ Numeral.digits n.toNat) := by
      rw [statement_eq, statement_eq, limit]
      simp only [front, limitText, effectiveLimit, Option.filter_none, List.append_nil]
    dsimp only
    rw [text, String.ofList_append, String.ofList_append, String.ofList_toList,
      ← String.append_assoc]
    rfl

/-- A configuration is refused for the same fault under every limit. -/
theorem compile_limit_eq_error_iff (limit : Option UInt64) :
    compile { c with limit } dialect = .error e ↔ compile c dialect = .error e := by
  have faults : ({ c with limit } : PipelineConfig).faults = c.faults := rfl
  rw [(reports_compile _ dialect).eq_error_iff, (reports_compile c dialect).eq_error_iff, faults]

end Sql

end Geoflow
