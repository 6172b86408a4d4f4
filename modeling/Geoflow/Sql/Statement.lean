import Geoflow.Extract.Error
import Geoflow.Sql.Config

set_option autoImplicit false

namespace Geoflow

inductive Dialect where
  | postgres
  | mysql
  deriving DecidableEq, Repr

namespace Dialect

def driver : Dialect → String
  | .postgres => "postgres"
  | .mysql => "mysql"

def aliases : Dialect → List String
  | .postgres => ["postgresql", "postgres"]
  | .mysql => ["mysql"]

def all : List Dialect := [.postgres, .mysql]

def ofProvider (provider : String) : Except ExtractError Dialect :=
  match all.find? (fun d => d.aliases.contains provider) with
  | some d => .ok d
  | none => .error (.connection (.unsupportedProvider provider))

end Dialect

namespace Sql

def inField {α : Type} (field : FieldName) : Except FragmentFault α → Except ExtractError α
  | .ok a => .ok a
  | .error fault => .error (.validation field (.fragment fault))

/-- Joins are LEFT unless they say INNER, in any letter case. -/
def joinWord (kind : String) : List Char :=
  if Text.capitals kind.toList = "INNER".toList then "INNER JOIN".toList else "LEFT JOIN".toList

/-- A quote inside a literal is written twice. -/
def doubleQuotes (cs : List Char) : List Char :=
  cs.flatMap fun c => if c = '\'' then ['\'', '\''] else [c]

/-- The selected columns, the first of them being mapping number `i`. -/
def selectColumns : Nat → List ColumnMapping → Except ExtractError (List (List Char))
  | _, [] => .ok []
  | i, m :: rest => do
    inField (.targetColumn i) (checkIdentifier m.targetColumn)
    inField (.expression i) (checkExpression m.expression)
    let columns ← selectColumns (i + 1) rest
    return (m.expression.toList ++ " AS ".toList ++ m.targetColumn.toList) :: columns

def joinClauses : Nat → List JoinConfig → Except ExtractError (List (List Char))
  | _, [] => .ok []
  | i, j :: rest => do
    inField (.joinTable i) (checkIdentifier j.table)
    inField (.onSource i) (checkIdentifier j.onSource)
    inField (.onTarget i) (checkIdentifier j.onTarget)
    let clauses ← joinClauses (i + 1) rest
    return (joinWord j.kind ++ ' ' :: j.table.toList ++ " ON ".toList ++ j.onSource.toList
      ++ " = ".toList ++ j.onTarget.toList) :: clauses

def conditions : Nat → List FilterConfig → Except ExtractError (List (List Char))
  | _, [] => .ok []
  | i, f :: rest => do
    inField (.filterColumn i) (checkIdentifier f.column)
    let operator ← inField (.filterOperator i) (checkOperator f.operator)
    let value := doubleQuotes f.value.toList
    inField (.filterValue i) (checkExpression (String.ofList value))
    let others ← conditions (i + 1) rest
    return (f.column.toList ++ ' ' :: operator.toList ++ ' ' :: '\'' :: value ++ ['\'']) :: others

def effectiveLimit (limit : Option UInt64) : Option UInt64 := limit.filter (0 < ·)

/-- The statement from its checked parts. -/
def assemble (base : List Char) (columns joins filters : List (List Char))
    (limit : Option UInt64) : List Char :=
  "SELECT\n    ".toList ++ Text.joined ",\n    ".toList columns ++ "\nFROM ".toList ++ base
    ++ joins.flatMap ('\n' :: ·)
    ++ (if filters.isEmpty then [] else "\nWHERE ".toList ++ Text.joined " AND ".toList filters)
    ++ (match effectiveLimit limit with
      | some n => "\nLIMIT ".toList ++ Numeral.digits n.toNat
      | none => [])

/-- The statement of a pipeline. Every part is checked before any text is written, in the order base
table, mappings, joins, filters. Both dialects read the same statements. -/
def compile (config : PipelineConfig) (_dialect : Dialect) : Except ExtractError String := do
  if config.baseTable.isEmpty then throw (.config .baseTableRequired)
  inField .baseTable (checkIdentifier config.baseTable)
  if config.mappings.isEmpty then throw (.config .mappingRequired)
  let columns ← selectColumns 0 config.mappings
  let joins ← joinClauses 0 config.joins
  let filters ← conditions 0 config.filters
  return String.ofList (assemble config.baseTable.toList columns joins filters config.limit)

/-- The extraction half of a pipeline document. -/
def readConfig (document : Json) : Except ExtractError PipelineConfig :=
  match PipelineConfig.read document with
  | .ok config => .ok config
  | .error e => .error (.config (.unreadable e))

def compileDocument (document : Json) (dialect : Dialect) : Except ExtractError String := do
  compile (← readConfig document) dialect

end Sql

end Geoflow
