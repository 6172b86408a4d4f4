import Geoflow.Numeral
import Geoflow.Text.Quoted

set_option autoImplicit false

namespace Geoflow.Text

def braced (name : String) (parts : List String) : String :=
  name ++ " \x7b " ++ String.intercalate ", " parts ++ " \x7d"

def fieldText (field : String × String) : String := field.1 ++ ": " ++ field.2

/-- The outline of a structure all of whose fields are given, on one line for logs. -/
def outline (name : String) (fields : List (String × String)) : String :=
  braced name (fields.map fieldText)

/-- The outline of a structure some of whose fields are left out. -/
def partialOutline (name : String) (fields : List (String × String)) : String :=
  braced name (fields.map fieldText ++ [".."])

def integerText (i : Int) : String := String.ofList (Numeral.ofInt i)

def durationText (seconds : Nat) : String :=
  if seconds = 0 then "0ns" else Numeral.ofNat seconds ++ "s"

end Geoflow.Text
