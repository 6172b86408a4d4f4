import Geoflow.Text.Capital
import Geoflow.Schedule.Normal

set_option autoImplicit false

namespace Geoflow.Cron

inductive Occurrence where
  | every
  | nth (week : Nat)
  | last
  deriving DecidableEq, Repr

inductive Part where
  /-- From `first` to `final` in steps. -/
  | range (first final step : Nat) (occurrence : Occurrence)
  /-- The last day. -/
  | lastDay
  /-- The weekday nearest to a day of the month. -/
  | nearestWeekday (day : Nat)
  deriving DecidableEq, Repr

structure FieldRule where
  least : Nat
  greatest : Nat
  lastDay : Bool := false
  nearestWeekday : Bool := false
  occurrence : Bool := false
  deriving DecidableEq, Repr

/-- The rules of the six fields; both 0 and 7 are Sunday. -/
def fieldRules : List FieldRule :=
  [{ least := 0, greatest := 59 },
    { least := 0, greatest := 59 },
    { least := 0, greatest := 23 },
    { least := 1, greatest := 31, lastDay := true, nearestWeekday := true },
    { least := 1, greatest := 12 },
    { least := 0, greatest := 7, lastDay := true, occurrence := true }]

def number? (cs : List Char) : Option Nat :=
  let digits := match cs with
    | '+' :: rest => rest
    | _ => cs
  (Numeral.readNat? digits).filter (· < 256)

def splitOccurrence? (cs : List Char) : Option (List Char × Occurrence) :=
  match Text.splitAt '#' cs with
  | [whole] =>
    if whole.getLast? = some 'L' then some (whole.dropLast, .last) else some (whole, .every)
  | [before, ['L']] => some (before, .last)
  | [before, week] => do
    let week ← number? week
    if 1 ≤ week ∧ week ≤ 5 then some (before, .nth week) else none
  | _ => none

/-- The limits of a range before its step; a single number is open at the top if a step follows. -/
def limits? (rule : FieldRule) (stepped : Bool) (cs : List Char) : Option (Nat × Nat) :=
  match Text.splitAt '-' cs with
  | [['*']] => if stepped then some (rule.least, rule.greatest) else none
  | [single] => (number? single).map fun n => (n, if stepped then rule.greatest else n)
  | [first, final] => do return (← number? first, ← number? final)
  | _ => none

def range? (rule : FieldRule) (cs : List Char) : Option Part := do
  let (body, occurrence) ← if rule.occurrence then splitOccurrence? cs else some (cs, .every)
  let (bounds, step) ← match Text.splitAt '/' body with
    | [bounds] => some (bounds, none)
    | [bounds, step] => (number? step).map fun n => (bounds, some n)
    | _ => none
  let (first, final) ← limits? rule step.isSome bounds
  let step := step.getD 1
  if rule.least ≤ first ∧ first ≤ final ∧ final ≤ rule.greatest ∧ 0 < step then
    some (.range first final step occurrence)
  else none

def part? (rule : FieldRule) (cs : List Char) : Option Part :=
  if cs = ['L'] then if rule.lastDay then some .lastDay else none
  else if rule.nearestWeekday ∧ cs.getLast? = some 'W' then do
    let day ← number? cs.dropLast
    if rule.least ≤ day ∧ day ≤ rule.greatest then some (.nearestWeekday day) else none
  else range? rule cs

/-- Reads a field: a star, or parts with commas between them. Empty parts say nothing. -/
def field? (rule : FieldRule) (cs : List Char) : Option (List Part) :=
  if cs = ['*'] then some [.range rule.least rule.greatest 1 .every]
  else ((Text.splitAt ',' cs).filter (!·.isEmpty)).mapM (part? rule)

def nicknames : List (String × String) :=
  [("@YEARLY", "0 0 0 1 1 *"), ("@ANNUALLY", "0 0 0 1 1 *"), ("@MONTHLY", "0 0 0 1 * *"),
    ("@WEEKLY", "0 0 0 * * 0"), ("@DAILY", "0 0 0 * * *"), ("@HOURLY", "0 0 * * * *")]

/-- The names of weekdays and months with their numbers. A Sunday that ends a range is a 7. -/
def names : List (String × String) :=
  [("-SUN", "-7"), ("SUN", "0"), ("MON", "1"), ("TUE", "2"), ("WED", "3"), ("THU", "4"),
    ("FRI", "5"), ("SAT", "6"), ("JAN", "1"), ("FEB", "2"), ("MAR", "3"), ("APR", "4"),
    ("MAY", "5"), ("JUN", "6"), ("JUL", "7"), ("AUG", "8"), ("SEP", "9"), ("OCT", "10"),
    ("NOV", "11"), ("DEC", "12")]

/-- A text with every occurrence of a word replaced, from the left. The first number says how many
characters of an occurrence are still to be passed over. -/
def replaced (word new : List Char) : Nat → List Char → List Char
  | _, [] => []
  | skip + 1, _ :: rest => replaced word new skip rest
  | 0, c :: rest =>
    if word.isPrefixOf (c :: rest) then new ++ replaced word new (word.length - 1) rest
    else c :: replaced word new 0 rest

def spelled (cs : List Char) : List Char :=
  let plain := (Text.capitals cs).map fun c => if c = '?' then '*' else c
  let whole := match nicknames.lookup (String.ofList plain) with
    | some pattern => pattern.toList
    | none => plain
  names.foldl (fun text (name, value) => replaced name.toList value.toList 0 text) whole

/-- The six fields of a pattern: seconds, minutes, hours, days, months and weekdays. -/
structure Pattern where
  fields : List (List Part)
  deriving DecidableEq, Repr

def Pattern.read? (normal : String) : Option Pattern := do
  let texts := Text.fieldsFrom (spelled normal.toList)
  if texts.length = fieldRules.length then
    let fields ← (fieldRules.zip texts).mapM fun (rule, text) => field? rule text
    some ⟨fields⟩
  else none

end Geoflow.Cron
