import Geoflow.Pipeline
import Geoflow.Schedule.JobKey
import Geoflow.Schedule.Pattern
import Geoflow.Sync.External

set_option autoImplicit false

namespace Geoflow

/-- What a trigger runs: a pipeline or a sync as it was when the trigger was made. -/
inductive Job where
  | pipeline (snapshot : Pipeline)
  | sync (snapshot : ExternalSync)

def Job.key : Job → JobKey
  | .pipeline p => .pipeline p.id
  | .sync s => .sync s.id

inductive ScheduleError where
  | invalid (fault : Cron.Fault)
  | config (pipelineId : Int64) (error : ReadError)
  | dispatcher (text : String)
  deriving DecidableEq, Repr

namespace ScheduleError

def code : ScheduleError → String
  | .invalid _ => "INVALID_SCHEDULE"
  | .config .. => "CONFIG_ERROR"
  | .dispatcher _ => "DISPATCHER_ERROR"

def message : ScheduleError → String
  | .invalid fault => "Invalid schedule: " ++ fault.message
  | .config pipelineId error =>
    "Schedule config error: pipeline " ++ String.ofList (Numeral.ofInt pipelineId.toInt) ++ ": "
      ++ error.message
  | .dispatcher text => "Dispatcher error: " ++ text

end ScheduleError

structure Trigger where
  handle : Nat
  name : String
  cron : String
  job : Job

inductive LifeEvent where
  | start
  | stop
  deriving DecidableEq, Repr

/-- What a dispatcher answers; a call that it refuses changes nothing. The number in `add` and
`remove` counts the calls before this one, the number in `handle` the handles that were given out.
-/
structure DispatcherPolicy where
  add : Nat → String → Except ScheduleError Unit
  remove : Nat → Except ScheduleError Unit
  life : List LifeEvent → LifeEvent → Except ScheduleError Unit
  handle : Nat → Nat := (· + 1)

structure Dispatcher where
  /-- The live triggers in the order in which they were added. -/
  triggers : List Trigger := []
  /-- How many handles were given out. -/
  issued : Nat := 0
  /-- How many triggers were removed. -/
  removed : Nat := 0
  /-- How often it was asked to add or remove a trigger. -/
  calls : Nat := 0
  /-- The starts and stops that succeeded. -/
  life : List LifeEvent := []

namespace Dispatcher

/-- Adds a trigger and gives its handle. -/
def add (policy : DispatcherPolicy) (d : Dispatcher) (name cron : String) (job : Job) :
    Dispatcher × Except ScheduleError Nat :=
  let asked := { d with calls := d.calls + 1 }
  match policy.add d.calls cron with
  | .error e => (asked, .error e)
  | .ok _ =>
    let handle := policy.handle d.issued
    let kept := { asked with
      triggers := d.triggers ++ [⟨handle, name, cron, job⟩]
      issued := d.issued + 1 }
    (kept, .ok handle)

def remove (policy : DispatcherPolicy) (d : Dispatcher) (handle : Nat) :
    Dispatcher × Except ScheduleError Unit :=
  let asked := { d with calls := d.calls + 1 }
  match policy.remove d.calls with
  | .error e => (asked, .error e)
  | .ok _ =>
    let left := d.triggers.filter (·.handle != handle)
    ({ asked with triggers := left, removed := d.removed + 1 }, .ok ())

def turn (policy : DispatcherPolicy) (d : Dispatcher) (event : LifeEvent) :
    Dispatcher × Except ScheduleError Unit :=
  match policy.life d.life event with
  | .error e => (d, .error e)
  | .ok _ => ({ d with life := d.life ++ [event] }, .ok ())

/-- The jobs that run when the triggers of a name fire, in the order in which they were added. -/
def fired (d : Dispatcher) (name : String) : List Job :=
  (d.triggers.filter (·.name == name)).map (·.job)

end Dispatcher

namespace DispatcherPolicy

/-- Whether a normal cron text can be put on a clock. -/
def checkPattern (cron : String) : Except ScheduleError Unit :=
  match Cron.Pattern.read? cron with
  | some _ => .ok ()
  | none => .error (.invalid (.unparsable cron))

/-- The answers of the dispatcher that works by the clock: it takes patterns that can be read, and
it can be started once. -/
def clockwork : DispatcherPolicy where
  add _ cron := checkPattern cron
  remove _ := .ok ()
  life past event :=
    if event = .start ∧ .start ∈ past then .error (.dispatcher "StartScheduler") else .ok ()

end DispatcherPolicy

end Geoflow
