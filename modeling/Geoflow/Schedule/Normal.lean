import Geoflow.Numeral
import Geoflow.Text.Blank

set_option autoImplicit false

namespace Geoflow.Cron

inductive Fault where
  | empty
  | fieldCount (count : Nat) (text : String)
  /-- A normal text that the trigger engine does not take. -/
  | unparsable (text : String)
  deriving DecidableEq, Repr

def Fault.message : Fault → String
  | .empty => "empty cron expression"
  | .fieldCount count text =>
    "expected 5 or 6 cron fields, got " ++ Numeral.ofNat count ++ ": `" ++ text ++ "`"
  | .unparsable text => "`" ++ text ++ "`: ParseSchedule"

def withSeconds (fields : List (List Char)) : List (List Char) :=
  if fields.length = 5 then ['0'] :: fields else fields

def normalChars (cs : List Char) : Except Fault (List Char) :=
  let trimmed := Text.trimmed cs
  match trimmed with
  | [] => .error .empty
  | '@' :: _ => .ok trimmed
  | _ =>
    let fields := Text.fieldsFrom trimmed
    if fields.length = 5 ∨ fields.length = 6 then
      .ok (Text.joined [' '] (withSeconds fields))
    else .error (.fieldCount fields.length (String.ofList trimmed))

/-- The normal form of a cron text, with seconds first: five fields get a zero for them, six fields
stay, and so does a shorthand that starts with an at sign. -/
def normalize (s : String) : Except Fault String := (normalChars s.toList).map String.ofList

end Geoflow.Cron
