import Geoflow.Proofs.Schedule.Registry

set_option autoImplicit false

namespace Geoflow

/-- The schedule in the description of a job: none if the job is not to be scheduled. -/
def Job.schedule : Job → Except ScheduleError (Option String)
  | .pipeline p => Scheduler.pipelineCron p
  | .sync s => .ok s.activeCron

/-- The registry entry that refers to a trigger. -/
def Trigger.entry (t : Trigger) : Registration := ⟨t.job.key, t.handle, t.cron⟩

/-- One change of a scheduler. -/
inductive Mutation where
  | add (job : Job)
  | remove (key : JobKey)

def Mutation.key : Mutation → JobKey
  | .add job => job.key
  | .remove key => key

/-- What callers may ask of a scheduler. -/
inductive Call where
  | addPipeline (p : Pipeline)
  | removePipeline (id : Int64)
  | addSync (sync : ExternalSync)
  | removeSync (id : Int64)
  | reloadPipelines (pipelines : List Pipeline)
  | reloadSyncs (syncs : List ExternalSync)

/-- The changes that a call makes, one after the other. -/
def Call.mutations (runsSyncs : Bool) : Call → List Mutation
  | .addPipeline p => [.add (.pipeline p)]
  | .removePipeline id => [.remove (.pipeline id)]
  | .addSync sync => if runsSyncs then [.add (.sync sync)] else []
  | .removeSync id => [.remove (.sync id)]
  | .reloadPipelines pipelines => pipelines.map fun p => .add (.pipeline p)
  | .reloadSyncs syncs => if runsSyncs then syncs.map fun sync => .add (.sync sync) else []

namespace Scheduler

variable (policy : DispatcherPolicy)

def call (s : Scheduler) : Call → Scheduler
  | .addPipeline p => (s.addPipeline policy p).1
  | .removePipeline id => s.removePipeline policy id
  | .addSync sync => (s.addSync policy sync).1
  | .removeSync id => s.removeSync policy id
  | .reloadPipelines pipelines => (s.reloadPipelines policy pipelines).1
  | .reloadSyncs syncs => (s.reloadSyncs policy syncs).1

def run (s : Scheduler) (calls : List Call) : Scheduler := calls.foldl (call policy) s

def mutate (s : Scheduler) : Mutation → Scheduler
  | .add job => (s.reregister policy job job.schedule).1
  | .remove key => s.unregister policy key

def replay (s : Scheduler) (changes : List Mutation) : Scheduler := changes.foldl (mutate policy) s

@[simp] theorem replay_nil (s : Scheduler) : s.replay policy [] = s := rfl

@[simp] theorem replay_cons (s : Scheduler) (m : Mutation) (rest : List Mutation) :
    s.replay policy (m :: rest) = (s.mutate policy m).replay policy rest := rfl

theorem replay_append (s : Scheduler) (first second : List Mutation) :
    s.replay policy (first ++ second) = (s.replay policy first).replay policy second :=
  List.foldl_append

@[simp] theorem unregister_runsSyncs (s : Scheduler) (key : JobKey) :
    (s.unregister policy key).runsSyncs = s.runsSyncs := by
  unfold unregister
  split <;> rfl

@[simp] theorem register_runsSyncs (s : Scheduler) (job : Job) (cron : String) :
    (s.register policy job cron).1.runsSyncs = s.runsSyncs := by
  unfold register
  split
  · rfl
  · split <;> rfl

@[simp] theorem mutate_runsSyncs (s : Scheduler) (m : Mutation) :
    (s.mutate policy m).runsSyncs = s.runsSyncs := by
  cases m with
  | add job =>
    simp only [mutate, reregister]
    split <;> simp
  | remove key => simp [mutate]

theorem replay_runsSyncs (s : Scheduler) (changes : List Mutation) :
    (s.replay policy changes).runsSyncs = s.runsSyncs := by
  induction changes generalizing s with
  | nil => rfl
  | cons m rest ih => rw [replay_cons, ih, mutate_runsSyncs]

theorem reload_pipelines_replay (s : Scheduler) (pipelines : List Pipeline)
    (key : Pipeline → JobKey) :
    (s.reload (addPipeline policy) key pipelines).1 =
      s.replay policy (pipelines.map fun p => .add (.pipeline p)) := by
  induction pipelines generalizing s with
  | nil => rfl
  | cons p rest ih => exact ih _

theorem reload_syncs_replay (s : Scheduler) (runs : s.runsSyncs = true)
    (syncs : List ExternalSync) (key : ExternalSync → JobKey) :
    (s.reload (addSync policy) key syncs).1 =
      s.replay policy (syncs.map fun sync => .add (.sync sync)) := by
  induction syncs generalizing s with
  | nil => rfl
  | cons sync rest ih =>
    have added : (s.addSync policy sync).1 = s.mutate policy (.add (.sync sync)) := by
      simp only [addSync, runs, ↓reduceIte]
      rfl
    simp only [reload, List.map_cons, replay_cons, added]
    exact ih _ (by rw [mutate_runsSyncs, runs])

theorem call_eq_replay (s : Scheduler) (c : Call) :
    s.call policy c = s.replay policy (c.mutations s.runsSyncs) := by
  cases c with
  | addPipeline p => rfl
  | removePipeline id => rfl
  | addSync sync =>
    simp only [call, addSync, Call.mutations]
    split <;> rfl
  | removeSync id => rfl
  | reloadPipelines pipelines => exact reload_pipelines_replay policy s pipelines _
  | reloadSyncs syncs =>
    simp only [call, reloadSyncs, Call.mutations]
    split
    · rename_i runs
      exact reload_syncs_replay policy s runs syncs _
    · rfl

/-- A run makes the changes of its calls in order. -/
theorem run_eq_replay (s : Scheduler) (calls : List Call) :
    s.run policy calls = s.replay policy (calls.flatMap (Call.mutations s.runsSyncs)) := by
  induction calls generalizing s with
  | nil => rfl
  | cons c rest ih =>
    rw [List.flatMap_cons, replay_append, ← call_eq_replay]
    have runs : (s.call policy c).runsSyncs = s.runsSyncs := by
      rw [call_eq_replay, replay_runsSyncs]
    rw [← runs]
    exact ih _

end Scheduler

end Geoflow
