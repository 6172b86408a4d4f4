import Geoflow.Text.Blank
import Geoflow.Text.Capital

set_option autoImplicit false

namespace Geoflow.Sql

inductive FragmentFault where
  | invalidIdentifier (value : String)
  | forbiddenSequence (sequence : String)
  | forbiddenKeyword (keyword : String)
  | operatorNotAllowed (value : String)
  deriving DecidableEq, Repr

def FragmentFault.message : FragmentFault → String
  | .invalidIdentifier value => "invalid identifier `" ++ value ++ "`"
  | .forbiddenSequence sequence => "forbidden character sequence `" ++ sequence ++ "`"
  | .forbiddenKeyword keyword => "forbidden keyword `" ++ keyword ++ "`"
  | .operatorNotAllowed value => "operator `" ++ value ++ "` is not allowed"

def isNameChar (c : Char) : Bool :=
  ('a' ≤ c && c ≤ 'z') || ('A' ≤ c && c ≤ 'Z') || ('0' ≤ c && c ≤ '9') || c == '_' || c == '.'

def isIdentifier (s : String) : Bool := !s.toList.isEmpty && s.toList.all isNameChar

def checkIdentifier (value : String) : Except FragmentFault Unit :=
  if isIdentifier value then .ok () else .error (.invalidIdentifier value)

/-- The character sequences that end a statement or open a comment. -/
def forbiddenSequences : List String := [";", "--", "/*"]

/-- The entries of the block list, looked for in the capital form of an expression. Those with a
blank at the end leave names such as `created_at` alone. -/
def forbiddenKeywords : List String :=
  ["SELECT ", "INSERT ", "UPDATE ", "DELETE ", "DROP ", "ALTER ", "CREATE ", "TRUNCATE", "EXEC",
    "UNION", "INTO", "MERGE", "EXECUTE"]

/-- The first forbidden thing in an expression: a sequence before a keyword, and of either kind in
the order of the list. -/
def expressionFault? (cs : List Char) : Option FragmentFault :=
  match forbiddenSequences.find? (fun mark => Text.occurs mark.toList cs) with
  | some mark => some (.forbiddenSequence mark)
  | none =>
    match forbiddenKeywords.find? (fun entry => Text.occurs entry.toList (Text.capitals cs)) with
    | some entry => some (.forbiddenKeyword (Text.trim entry))
    | none => none

def checkExpression (value : String) : Except FragmentFault Unit :=
  match expressionFault? value.toList with
  | some fault => .error fault
  | none => .ok ()

def allowedOperators : List String := ["=", ">", "<", ">=", "<=", "!=", "LIKE", "ILIKE"]

/-- The normal form of an operator: trimmed and in capitals. -/
def normalOperator (value : String) : String :=
  String.ofList (Text.capitals (Text.trimmed value.toList))

def checkOperator (value : String) : Except FragmentFault String :=
  let normal := normalOperator value
  if allowedOperators.contains normal then .ok normal else .error (.operatorNotAllowed value)

end Geoflow.Sql
