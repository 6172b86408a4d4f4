import Geoflow.Schedule.Dispatcher

set_option autoImplicit false

namespace Geoflow

structure Registration where
  key : JobKey
  handle : Nat
  cron : String
  deriving DecidableEq, Repr

/-- The registered jobs in ascending order of their keys. -/
abbrev Registry := List Registration

namespace Registry

def find? (r : Registry) (key : JobKey) : Option Registration := List.find? (·.key == key) r

def erase (r : Registry) (key : JobKey) : Registry := r.filter (·.key != key)

def insert (r : Registry) (entry : Registration) : Registry :=
  match r with
  | [] => [entry]
  | other :: rest =>
    if other.key.le entry.key then other :: insert rest entry else entry :: other :: rest

end Registry

structure ActiveJob where
  key : JobKey
  cron : String
  deriving DecidableEq, Repr

/-- A scheduler with its dispatcher. -/
structure Scheduler where
  /-- Whether syncs are scheduled at all. -/
  runsSyncs : Bool := true
  jobs : Registry := []
  dispatcher : Dispatcher := {}

namespace Scheduler

variable (policy : DispatcherPolicy)

/-- Takes a key out of the registry, and its trigger out of the dispatcher if that lets it go. -/
def unregister (s : Scheduler) (key : JobKey) : Scheduler :=
  match s.jobs.find? key with
  | none => s
  | some entry =>
    { s with
      jobs := s.jobs.erase key
      dispatcher := (s.dispatcher.remove policy entry.handle).1 }

/-- Makes a trigger for a job and enters its key. -/
def register (s : Scheduler) (job : Job) (cron : String) : Scheduler × Except ScheduleError Unit :=
  match Cron.normalize cron with
  | .error fault => (s, .error (.invalid fault))
  | .ok normal =>
    match s.dispatcher.add policy job.key.toText normal job with
    | (dispatcher, .error e) => ({ s with dispatcher }, .error e)
    | (dispatcher, .ok handle) =>
      ({ s with jobs := s.jobs.insert ⟨job.key, handle, normal⟩, dispatcher }, .ok ())

/-- The schedule of a pipeline: none if it is not to be scheduled. -/
def pipelineCron (p : Pipeline) : Except ScheduleError (Option String) :=
  match ScheduleConfig.read p.config with
  | .error e => .error (.config p.id e)
  | .ok schedule => .ok schedule.activeCron

/-- Registers a job anew on its schedule. Any entry of its key goes first, so an edit that makes a
description unusable leaves the job unscheduled. -/
def reregister (s : Scheduler) (job : Job) (cron : Except ScheduleError (Option String)) :
    Scheduler × Except ScheduleError Unit :=
  let s := s.unregister policy job.key
  match cron with
  | .error e => (s, .error e)
  | .ok none => (s, .ok ())
  | .ok (some cron) => s.register policy job cron

def addPipeline (s : Scheduler) (p : Pipeline) : Scheduler × Except ScheduleError Unit :=
  s.reregister policy (.pipeline p) (pipelineCron p)

def removePipeline (s : Scheduler) (id : Int64) : Scheduler := s.unregister policy (.pipeline id)

/-- Registers a sync from its current description, if syncs are scheduled. -/
def addSync (s : Scheduler) (sync : ExternalSync) : Scheduler × Except ScheduleError Unit :=
  if s.runsSyncs then s.reregister policy (.sync sync) (.ok sync.activeCron) else (s, .ok ())

def removeSync (s : Scheduler) (id : Int64) : Scheduler := s.unregister policy (.sync id)

def isRegistered (s : Scheduler) (key : JobKey) : Bool := (s.jobs.find? key).isSome

def activeJobs (s : Scheduler) : List ActiveJob := s.jobs.map fun entry => ⟨entry.key, entry.cron⟩

/-- Adds each of a list, and counts those that are registered right after. -/
def reload {α : Type} (add : Scheduler → α → Scheduler × Except ScheduleError Unit)
    (key : α → JobKey) (s : Scheduler) : List α → Scheduler × Nat
  | [] => (s, 0)
  | a :: rest =>
    let (s, answer) := add s a
    let counted := if answer.isOk && s.isRegistered (key a) then 1 else 0
    let (s, count) := reload add key s rest
    (s, counted + count)

def reloadPipelines (s : Scheduler) (pipelines : List Pipeline) : Scheduler × Nat :=
  s.reload (addPipeline policy) (fun p => .pipeline p.id) pipelines

def reloadSyncs (s : Scheduler) (syncs : List ExternalSync) : Scheduler × Nat :=
  if s.runsSyncs then s.reload (addSync policy) (fun sync => .sync sync.id) syncs else (s, 0)

def turn (s : Scheduler) (event : LifeEvent) : Scheduler × Except ScheduleError Unit :=
  let (dispatcher, answer) := s.dispatcher.turn policy event
  ({ s with dispatcher }, answer)

end Scheduler

end Geoflow
