import Geoflow.Extract.Stream
import Geoflow.Run.Session

set_option autoImplicit false

namespace Geoflow

abbrev RecordSource := Except ExtractError (List StreamItem)

abbrev Validator := Nat → CanonicalRecord → ValidationResult

/-- What a sink does with a result: it may fail, and it may cancel the run. -/
structure SinkAnswer where
  failure : Option ConsumerFailure := none
  cancels : Bool := false
  deriving DecidableEq, Repr

abbrev ResultSink := Nat → ValidationResult → SinkAnswer

inductive SaveAnswer where
  | saved
  | failed (text : String)
  | hangs
  | panics
  deriving DecidableEq, Repr

/-- What a run has done so far. -/
structure RunState where
  session : RunSession
  /-- The records given to the validator, in order. -/
  validated : List CanonicalRecord := []
  /-- The results given to the sink, in order. -/
  streamed : List ValidationResult := []
  cancelled : Bool := false
  deriving DecidableEq, Repr

def cancelledFailure : ConsumerFailure := ExtractError.cancelled.asConsumerFailure

/-- Validates one record, counts the result and hands it on. -/
def RunState.process (validator : Validator) (sink : ResultSink) (s : RunState)
    (record : CanonicalRecord) : RunState × Option ConsumerFailure :=
  let result := validator s.validated.length record
  let answer := sink s.streamed.length result
  ({ session := s.session.record result
     validated := s.validated ++ [record]
     streamed := s.streamed ++ [result]
     cancelled := s.cancelled || answer.cancels }, answer.failure)

/-- Works through a batch; a cancellation is noticed before each record. -/
def RunState.handle (validator : Validator) (sink : ResultSink) (s : RunState) :
    List CanonicalRecord → RunState × Except ConsumerFailure Unit
  | [] => (s, .ok ())
  | record :: rest =>
    if s.cancelled then (s, .error cancelledFailure)
    else match s.process validator sink record with
      | (s, none) => s.handle validator sink rest
      | (s, some failure) => (s, .error failure)

def runConsumer (validator : Validator) (sink : ResultSink) : Consumer RunState where
  handle := RunState.handle validator sink
  isCancelled := RunState.cancelled

/-- A consumer that stopped because of a cancellation is no failing consumer. -/
def unwrapCancelled : ExtractError → ExtractError
  | .consumer failure => if failure.isCancelled then .cancelled else .consumer failure
  | e => e

/-- The state and outcome of a stream that has been worked through. -/
structure Driven where
  state : RunState
  outcome : Except ExtractError ExtractStats

/-- Streams a source through validation. A source that has no items makes no buffer either. -/
def drive (source : RecordSource) (validator : Validator) (sink : ResultSink) (batchSize : Nat)
    (state : RunState) : Except Panic Driven :=
  match source with
  | .error e => .ok ⟨state, .error (unwrapCancelled e)⟩
  | .ok items => do
    let run ← streamBatches (runConsumer validator sink) (max batchSize 1) state items
    return ⟨run.progress.state, run.outcome.mapError unwrapCancelled⟩

def openSink : ResultSink := fun _ _ => {}

abbrev SessionStore := RunSession → Except String Unit

/-- A finished scheduled run: its result, the sessions given to the store, and what was done. -/
structure ScheduledRun where
  result : Except ExtractError RunSession
  saves : List RunSession
  state : RunState
  /-- What the store said if it could not save the session. -/
  warning : Option String := none

/-- What a scheduled run makes of its stream. The session is saved if the stream succeeded; that the
saving fails does not matter. -/
def Driven.scheduled (driven : Driven) (store : SessionStore) : ScheduledRun :=
  match driven.outcome with
  | .error e => { result := .error e, saves := [], state := driven.state }
  | .ok _ =>
    let session := driven.state.session
    { result := .ok session
      saves := [session]
      state := driven.state
      warning := match store session with
        | .ok () => none
        | .error text => some text }

def runScheduled (source : RecordSource) (validator : Validator) (batchSize : Nat)
    (ownerId : Int64) (now : Instant) (store : SessionStore := fun _ => .ok ()) :
    Except Panic ScheduledRun :=
  (drive source validator openSink batchSize { session := .empty ownerId now }).map
    fun driven => driven.scheduled store

/-- A task of its own that saves a session, with a cancellation scope of its own. -/
structure DetachedSave where
  session : RunSession
  scopeCancelled : Bool
  deriving DecidableEq, Repr

namespace DetachedSave

def spawn (session : RunSession) : DetachedSave := ⟨session, false⟩

def cancelIf (cancels : Bool) (task : DetachedSave) : DetachedSave :=
  { task with scopeCancelled := task.scopeCancelled || cancels }

/-- The sessions that a task gives to the store until it is over. Where its scope is cancelled when
it starts, nothing says whether it turns to the store or to its scope first. -/
def saves (task : DetachedSave) (storeFirst : Bool) : List RunSession :=
  if task.scopeCancelled && !storeFirst then [] else [task.session]

end DetachedSave

structure InteractiveRun where
  state : RunState
  outcome : Except ExtractError ExtractStats
  persists : Option DetachedSave

/-- What an interactive run makes of its stream: the session is saved if anything was counted. -/
def Driven.interactive (driven : Driven) : InteractiveRun :=
  ⟨driven.state, driven.outcome,
    if 0 < driven.state.session.totalCount then some (.spawn driven.state.session) else none⟩

def runInteractive (source : RecordSource) (validator : Validator) (sink : ResultSink)
    (batchSize : Nat) (ownerId : Int64) (now : Instant) (cancelled : Bool) :
    Except Panic InteractiveRun :=
  (drive source validator sink batchSize { session := .empty ownerId now, cancelled }).map
    Driven.interactive

/-- The sessions a store keeps of those it is given. -/
def SaveAnswer.kept (answer : SaveAnswer) (saves : List RunSession) : List RunSession :=
  match answer with
  | .saved => saves
  | _ => []

/-- The sessions that are given to the store after a run, when the scope of the task is cancelled
before the task is waited for, or is not. -/
def InteractiveRun.saves (run : InteractiveRun) (cancels storeFirst : Bool) : List RunSession :=
  (run.persists.map fun task => (task.cancelIf cancels).saves storeFirst).getD []

end Geoflow
