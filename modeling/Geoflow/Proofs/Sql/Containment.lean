import Geoflow.Proofs.Sql.Literal

set_option autoImplicit false

namespace Geoflow.Sql

/-- The statement up to the opening quote of a filter, after the filters before it. -/
def textBefore (c : PipelineConfig) (before : List FilterConfig) (f : FilterConfig) : List Char :=
  front c ++ "\nWHERE ".toList ++ before.flatMap (conditionText · ++ " AND ".toList)
    ++ conditionHead f

theorem statement_split {c : PipelineConfig} {before after : List FilterConfig} {f : FilterConfig}
    (split : c.filters = before ++ f :: after) :
    statement c = textBefore c before f ++ literal f.value ++ textAfter after c.limit := by
  have filters : c.filters.isEmpty = false := by simp [split]
  rw [statement_eq, whereText, filters, split, List.map_append, List.map_cons,
    Text.joined_append_cons]
  simp only [textBefore, textAfter, conditionText, List.flatMap_map, List.append_assoc,
    Bool.false_eq_true, ↓reduceIte]

/-- The literal that a statement has for a filter, read from its opening quote, ends at its closing
quote and stands for the value of the filter: always for PostgreSQL, and for MySQL exactly if every
backslash of the value stands before a wildcard. -/
theorem filter_literal_read_iff (config : PipelineConfig) (dialect : Dialect) (sql : String)
    (before after : List FilterConfig) (f : FilterConfig)
    (compiled : compile config dialect = .ok sql)
    (split : config.filters = before ++ f :: after) :
    sql.toList = textBefore config before f ++ literal f.value ++ textAfter after config.limit ∧
    (readLiteral dialect (literal f.value ++ textAfter after config.limit) =
        some (f.value.toList, textAfter after config.limit) ↔
      dialect = .postgres ∨ KeepsBackslashes f.value.toList) := by
  obtain ⟨-, rfl⟩ := compile_eq_ok_iff.mp compiled
  refine ⟨?_, readLiteral_literal_iff dialect f.value (head?_textAfter after config.limit)⟩
  rw [String.toList_ofList, statement_split split]

/-- Two filters over texts, the second of which looks like more of the statement. -/
def hostile (first second : String) : PipelineConfig where
  baseTable := "t"
  mappings := [⟨"id", "t.id"⟩]
  filters := [⟨"t.a", "like", first⟩, ⟨"t.b", "=", second⟩]

theorem filter_literal_read_iff_hostile :
    ∃ sql, compile (hostile "it's 5\\%" " OR 1=1 #") .mysql = .ok sql ∧
      readLiteral .mysql (literal "it's 5\\%" ++ textAfter [⟨"t.b", "=", " OR 1=1 #"⟩] none) =
        some ("it's 5\\%".toList, textAfter [⟨"t.b", "=", " OR 1=1 #"⟩] none) := by
  have compiled : compile (hostile "it's 5\\%" " OR 1=1 #") .mysql = .ok
      "SELECT\n    t.id AS id\nFROM t\nWHERE t.a LIKE 'it''s 5\\%' AND t.b = ' OR 1=1 #'" := by
    rfl
  refine ⟨_, compiled, ?_⟩
  exact (filter_literal_read_iff _ .mysql _ [] _ _ compiled rfl).2.mpr
    (Or.inr (by simp [KeepsBackslashes]))

/-- A backslash at the end of a value takes the closing quote: the literal goes on to the quote that
opens the next one, and the value of that one is read as part of the statement. -/
theorem backslash_leaves_literal :
    compile (hostile "\\" " OR 1=1 #") .mysql = .ok
      "SELECT\n    t.id AS id\nFROM t\nWHERE t.a LIKE '\\' AND t.b = ' OR 1=1 #'" ∧
    readLiteral .mysql (literal "\\" ++ textAfter [⟨"t.b", "=", " OR 1=1 #"⟩] none) =
      some ("' AND t.b = ".toList, " OR 1=1 #'".toList) := by
  constructor <;> rfl

end Geoflow.Sql
