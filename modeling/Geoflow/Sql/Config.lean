import Geoflow.Json.Reader

set_option autoImplicit false

namespace Geoflow

/-- A join; `kind` is INNER or counts as LEFT. -/
structure JoinConfig where
  kind : String
  table : String
  onSource : String
  onTarget : String
  deriving DecidableEq, Repr

structure ColumnMapping where
  targetColumn : String
  expression : String
  deriving DecidableEq, Repr

structure FilterConfig where
  column : String
  operator : String
  value : String
  deriving DecidableEq, Repr

/-- The extraction half of a pipeline document. The scheduling half is read from the same document
by its own shape; neither looks at the entries of the other. -/
structure PipelineConfig where
  baseTable : String := ""
  joins : List JoinConfig := []
  mappings : List ColumnMapping := []
  filters : List FilterConfig := []
  limit : Option UInt64 := none
  deriving DecidableEq, Repr

section Readers

variable {δ : Type} [Document δ]

def JoinConfig.read : δ → Except ReadError JoinConfig :=
  readShape "struct JoinConfig" 4 fun fs =>
    JoinConfig.mk <$> fs.withDefault 0 "type" readString ""
      <*> fs.required 1 "table" readString
      <*> fs.required 2 "on_source" readString
      <*> fs.required 3 "on_target" readString

def ColumnMapping.read : δ → Except ReadError ColumnMapping :=
  readShape "struct ColumnMapping" 2 fun fs =>
    ColumnMapping.mk <$> fs.required 0 "target_column" readString
      <*> fs.required 1 "expression" readString

def FilterConfig.read : δ → Except ReadError FilterConfig :=
  readShape "struct FilterConfig" 3 fun fs =>
    FilterConfig.mk <$> fs.required 0 "column" readString
      <*> fs.required 1 "operator" readString
      <*> fs.required 2 "value" readString

def PipelineConfig.read : δ → Except ReadError PipelineConfig :=
  readShape "struct PipelineConfig" 5 fun fs =>
    PipelineConfig.mk <$> fs.withDefault 0 "base_table" readString ""
      <*> fs.withDefault 1 "joins" (readList JoinConfig.read) []
      <*> fs.withDefault 2 "mappings" (readList ColumnMapping.read) []
      <*> fs.withDefault 3 "filters" (readList FilterConfig.read) []
      <*> fs.withDefault 4 "limit" (readOption readUInt64) none

end Readers

def JoinConfig.toJson (j : JoinConfig) : Json :=
  .ofEntries [("type", .str j.kind), ("table", .str j.table), ("on_source", .str j.onSource),
    ("on_target", .str j.onTarget)]

def ColumnMapping.toJson (m : ColumnMapping) : Json :=
  .ofEntries [("target_column", .str m.targetColumn), ("expression", .str m.expression)]

def FilterConfig.toJson (f : FilterConfig) : Json :=
  .ofEntries [("column", .str f.column), ("operator", .str f.operator), ("value", .str f.value)]

def PipelineConfig.toJson (c : PipelineConfig) : Json :=
  .ofEntries [("base_table", .str c.baseTable), ("joins", .arr (c.joins.map JoinConfig.toJson)),
    ("mappings", .arr (c.mappings.map ColumnMapping.toJson)),
    ("filters", .arr (c.filters.map FilterConfig.toJson)),
    ("limit", .ofOption (fun n : UInt64 => .int n.toNat) c.limit)]

end Geoflow
