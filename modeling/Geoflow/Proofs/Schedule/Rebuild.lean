import Geoflow.Proofs.Schedule.FinalJobs

set_option autoImplicit false

namespace Geoflow

def Job.pipeline? : Job → Option Pipeline
  | .pipeline snapshot => some snapshot
  | .sync _ => none

def Job.sync? : Job → Option ExternalSync
  | .sync snapshot => some snapshot
  | .pipeline _ => none

theorem Job.pipeline?_eq_some_iff {job : Job} {p : Pipeline} :
    job.pipeline? = some p ↔ job = .pipeline p := by
  cases job <;> simp [Job.pipeline?]

theorem Job.sync?_eq_some_iff {job : Job} {s : ExternalSync} :
    job.sync? = some s ↔ job = .sync s := by
  cases job <;> simp [Job.sync?]

/-- The pipelines that calls leave to be scheduled, as they were last described. -/
def finalPipelines (runsSyncs : Bool) (calls : List Call) : List Pipeline :=
  (finalJobs (calls.flatMap (Call.mutations runsSyncs))).filterMap Job.pipeline?

/-- The syncs that calls leave to be scheduled, as they were last described. -/
def finalSyncs (runsSyncs : Bool) (calls : List Call) : List ExternalSync :=
  (finalJobs (calls.flatMap (Call.mutations runsSyncs))).filterMap Job.sync?

/-- A call that adds or removes one pipeline. -/
def Call.IsPipelineChange : Call → Prop
  | .addPipeline _ => True
  | .removePipeline _ => True
  | _ => False

section

variable {runsSyncs : Bool} {calls : List Call}

theorem mem_finalPipelines_iff {p : Pipeline} : p ∈ finalPipelines runsSyncs calls ↔
    .pipeline p ∈ finalJobs (calls.flatMap (Call.mutations runsSyncs)) := by
  rw [finalPipelines, List.mem_filterMap]
  simp only [Job.pipeline?_eq_some_iff, exists_eq_right]

theorem mem_finalSyncs_iff {sync : ExternalSync} : sync ∈ finalSyncs runsSyncs calls ↔
    .sync sync ∈ finalJobs (calls.flatMap (Call.mutations runsSyncs)) := by
  rw [finalSyncs, List.mem_filterMap]
  simp only [Job.sync?_eq_some_iff, exists_eq_right]

/-- A final job was added by one of the calls. -/
theorem exists_call_of_mem_finalJobs {job : Job}
    (mem : job ∈ finalJobs (calls.flatMap (Call.mutations runsSyncs))) :
    ∃ c ∈ calls, Mutation.add job ∈ c.mutations runsSyncs := by
  have listed := List.mem_of_find?_eq_some (mem_finalJobs_iff.mp mem)
  exact List.mem_flatMap.mp (List.mem_reverse.mp listed)

/-- Without syncs no call adds one. -/
theorem not_mem_mutations_false (c : Call) (sync : ExternalSync) :
    Mutation.add (.sync sync) ∉ c.mutations false := by
  cases c <;> simp [Call.mutations]

theorem Call.IsPipelineChange.not_mem_mutations {c : Call} (change : c.IsPipelineChange)
    (sync : ExternalSync) : Mutation.add (.sync sync) ∉ c.mutations runsSyncs := by
  cases c with
  | addPipeline | removePipeline => simp [Call.mutations]
  | addSync | removeSync | reloadPipelines | reloadSyncs => cases change

end

namespace Scheduler

variable {policy : DispatcherPolicy} {accepts : String → Bool} {s : Scheduler} {job : Job}
  {runsSyncs : Bool} {pipelines : List Pipeline} {p : Pipeline}

/-- The states that a scheduler can come to. -/
inductive Reachable (policy : DispatcherPolicy) (runsSyncs : Bool) : Scheduler → Prop
  | fresh : Reachable policy runsSyncs { runsSyncs }
  | call {s : Scheduler} (c : Call) (reached : Reachable policy runsSyncs s) :
      Reachable policy runsSyncs (s.call policy c)
  | turn {s : Scheduler} (event : LifeEvent) (reached : Reachable policy runsSyncs s) :
      Reachable policy runsSyncs (s.turn policy event).1

theorem Reachable.run (reached : Reachable policy runsSyncs s) (calls : List Call) :
    Reachable policy runsSyncs (s.run policy calls) := by
  induction calls generalizing s with
  | nil => exact reached
  | cons c rest ih => exact ih (reached.call c)

theorem turn_triggers (d : Dispatcher) (event : LifeEvent) :
    (d.turn policy event).1.triggers = d.triggers := by
  unfold Dispatcher.turn
  split <;> rfl

theorem turn_issued (d : Dispatcher) (event : LifeEvent) :
    (d.turn policy event).1.issued = d.issued := by
  unfold Dispatcher.turn
  split <;> rfl

/-- Starting and stopping leave entries and triggers as they are. -/
theorem Settled.turn (settled : s.Settled policy) (event : LifeEvent) :
    (s.turn policy event).1.Settled policy := by
  have triggers : (s.turn policy event).1.dispatcher.triggers = s.dispatcher.triggers :=
    turn_triggers s.dispatcher event
  have issued : (s.turn policy event).1.dispatcher.issued = s.dispatcher.issued :=
    turn_issued s.dispatcher event
  refine ⟨settled.sound.of_same rfl triggers issued, fun live mem => ?_⟩
  rw [triggers] at mem
  exact settled.tracked live mem

/-- What a reload of pipelines does to a schedule. -/
structure Reloads (policy : DispatcherPolicy) (runsSyncs : Bool) (s : Scheduler)
    (pipelines : List Pipeline) : Prop where
  /-- The last entry of a number decides its key, as if it had been reloaded alone, on any state. -/
  last : ∀ before p after, pipelines = before ++ p :: after → (∀ q ∈ after, q.id ≠ p.id) →
    ∀ t, Reachable policy runsSyncs t →
      SameAt (.pipeline p.id) (s.reloadPipelines policy pipelines).1
        (t.reloadPipelines policy [p]).1
  others : ∀ key, (∀ p ∈ pipelines, .pipeline p.id ≠ key) →
    Untouched key s (s.reloadPipelines policy pipelines).1
  counted : (pipelines.map (·.id)).Nodup → (s.reloadPipelines policy pipelines).2 =
    pipelines.countP fun p => (s.reloadPipelines policy pipelines).1.isRegistered (.pipeline p.id)
  permuted : (pipelines.map (·.id)).Nodup → ∀ shuffled, pipelines.Perm shuffled →
    SameSchedule (s.reloadPipelines policy pipelines).1 (s.reloadPipelines policy shuffled).1 ∧
      (s.reloadPipelines policy pipelines).2 = (s.reloadPipelines policy shuffled).2
  again :
    SameSchedule (s.reloadPipelines policy pipelines).1
        ((s.reloadPipelines policy pipelines).1.reloadPipelines policy pipelines).1 ∧
      (s.reloadPipelines policy pipelines).1.dispatcher.triggers.length =
        ((s.reloadPipelines policy pipelines).1.reloadPipelines policy
          pipelines).1.dispatcher.triggers.length

theorem reloadPipelines_eq (s : Scheduler) (pipelines : List Pipeline) :
    (s.reloadPipelines policy pipelines).1 =
      s.replay policy ((pipelines.map Job.pipeline).map .add) := by
  rw [reloadPipelines, reload_pipelines_replay, List.map_map]
  rfl

/-- The adds of pipelines without the key are changes of other keys. -/
theorem elsewhere_of_pipelines {key : JobKey}
    (elsewhere : ∀ p ∈ pipelines, JobKey.pipeline p.id ≠ key) :
    ∀ m ∈ (pipelines.map Job.pipeline).map Mutation.add, m.key ≠ key := by
  intro m mem
  obtain ⟨job, isJob, rfl⟩ := List.mem_map.mp mem
  obtain ⟨p, listed, rfl⟩ := List.mem_map.mp isJob
  exact elsewhere p listed

theorem keysApart_of_nodup (distinct : (pipelines.map (·.id)).Nodup) :
    KeysApart (pipelines.map Job.pipeline) := by
  intro a inA b inB same
  obtain ⟨p, listedP, rfl⟩ := List.mem_map.mp inA
  obtain ⟨q, listedQ, rfl⟩ := List.mem_map.mp inB
  have sameId : p.id = q.id := JobKey.pipeline.inj same
  rw [List.inj_on_of_nodup_map distinct listedP listedQ sameId]

section

variable (steady : policy.Steady accepts)
include steady

theorem Reachable.settled {runsSyncs : Bool} (reached : Reachable policy runsSyncs s) :
    s.Settled policy := by
  induction reached with
  | fresh => exact settled_initial policy runsSyncs
  | call c _ ih =>
    rw [call_eq_replay]
    exact ih.replay steady _
  | turn event _ ih => exact ih.turn event

theorem reregister_of_plan {cron : String} (plan : job.plan accepts = some cron) :
    (s.reregister policy job job.schedule).2 = .ok () := by
  have placed := (placed_iff (s := s.unregister policy job.key) steady).mpr ⟨plan, rfl⟩
  obtain ⟨text, schedule, normal, added⟩ := placed
  simp only [reregister, schedule, register, normal]
  split
  · rename_i answer
    rw [answer] at added
    cases added
  · rfl

/-- A reload counts the pipelines that have a plan. -/
theorem reload_count (settled : s.Settled policy) (pipelines : List Pipeline) :
    (s.reloadPipelines policy pipelines).2 =
      pipelines.countP fun p => ((Job.pipeline p).plan accepts).isSome := by
  rw [reloadPipelines]
  induction pipelines generalizing s with
  | nil => rfl
  | cons p rest ih =>
    have last : lastChange? [Mutation.add (.pipeline p)] (Job.pipeline p).key =
        some (.add (.pipeline p)) := by
      rw [lastChange?_singleton]
      exact if_pos rfl
    have registered : (s.addPipeline policy p).1.isRegistered (.pipeline p.id) =
        ((Job.pipeline p).plan accepts).isSome := isRegistered_of_lastChange? steady settled last
    have counted : ((s.addPipeline policy p).2.isOk &&
        (s.addPipeline policy p).1.isRegistered (.pipeline p.id)) =
          ((Job.pipeline p).plan accepts).isSome := by
      rw [registered]
      cases plan : (Job.pipeline p).plan accepts with
      | none => rw [Option.isSome_none, Bool.and_false]
      | some cron =>
        have answer : (s.addPipeline policy p).2 = .ok () := reregister_of_plan steady plan
        rw [answer]
        rfl
    have later := ih (settled.mutate steady (.add (.pipeline p)))
    simp only [reload, counted, List.countP_cons]
    rw [Nat.add_comm]
    exact congrArg (· + _) later

/-- A reload decides the keys of its list by the last entry of each, and no others. -/
theorem Settled.reloads (settled : s.Settled policy) (runsSyncs : Bool)
    (pipelines : List Pipeline) : Reloads policy runsSyncs s pipelines where
  last before p after split later t reached := by
    have decides : ∀ before after : List Pipeline, (∀ q ∈ after, q.id ≠ p.id) →
        lastChange? (((before ++ p :: after).map Job.pipeline).map .add) (.pipeline p.id) =
          some (.add (.pipeline p)) := by
      intro before after later
      rw [List.map_append, List.map_append, List.map_cons, List.map_cons]
      exact lastChange?_of_split (elsewhere_of_pipelines fun q listed same =>
        later q listed (JobKey.pipeline.inj same))
    rw [reloadPipelines_eq, reloadPipelines_eq, split]
    exact sameAt_of_lastChange? steady settled (reached.settled steady) (decides before after later)
      (decides [] [] fun _ none => absurd none List.not_mem_nil)
  others key elsewhere := by
    rw [reloadPipelines_eq]
    refine settled.untouched (settled.replay steady _) fun live isKey => ?_
    have notHere := elsewhere_of_pipelines elsewhere
    rw [← isKey] at notHere
    exact (mem_triggers_replay_of_others steady settled notHere).symm
  counted distinct := by
    rw [reload_count steady settled, reloadPipelines_eq]
    refine List.countP_congr fun p listed => ?_
    have added := (keysApart_of_nodup distinct).lastChange?_iff.mpr (List.mem_map_of_mem listed)
    have registered := isRegistered_of_lastChange? steady settled added
    exact (Bool.eq_iff_iff.mp registered).symm
  permuted distinct shuffled perm := by
    refine ⟨?_, ?_⟩
    · rw [reloadPipelines_eq, reloadPipelines_eq]
      refine sameSchedule_of_lastChange? steady settled fun key => ?_
      exact (keysApart_of_nodup distinct).lastChange?_congr (fun _ => (perm.map _).mem_iff) key
    · rw [reload_count steady settled, reload_count steady settled, perm.countP_eq]
  again := by
    have once := settled.replay steady ((pipelines.map Job.pipeline).map .add)
    have twice := once.replay steady ((pipelines.map Job.pipeline).map .add)
    have same := sameSchedule_again steady settled ((pipelines.map Job.pipeline).map .add)
    rw [reloadPipelines_eq, reloadPipelines_eq]
    exact ⟨same, same.length_triggers once twice⟩

/-- A history that leaves no sync looks like a reload of the pipelines it leaves. -/
theorem sameSchedule_reloadPipelines {calls : List Call}
    (noSync : ∀ sync, Job.sync sync ∉ finalJobs (calls.flatMap (Call.mutations runsSyncs)))
    (final : ∀ p, p ∈ pipelines ↔ p ∈ finalPipelines runsSyncs calls) :
    SameSchedule (run policy { runsSyncs } calls)
      (reloadPipelines policy { runsSyncs } pipelines).1 := by
  rw [run_eq_replay, reloadPipelines_eq]
  refine sameSchedule_of_finalJobs steady runsSyncs _ fun job => ?_
  cases job with
  | pipeline snapshot =>
    rw [← mem_finalPipelines_iff, ← final]
    simp
  | sync snapshot =>
    refine iff_of_false ?_ (noSync snapshot)
    simp

/-- A history looks like a reload of the pipelines and then of the syncs that it leaves. -/
theorem sameSchedule_reload_both {calls : List Call} {syncs : List ExternalSync}
    (final : ∀ p, p ∈ pipelines ↔ p ∈ finalPipelines runsSyncs calls)
    (finalSync : ∀ sync, sync ∈ syncs ↔ sync ∈ finalSyncs runsSyncs calls) :
    SameSchedule (run policy { runsSyncs } calls)
      (run policy { runsSyncs } [.reloadPipelines pipelines, .reloadSyncs syncs]) := by
  cases runsSyncs with
  | false =>
    have reloads : run policy { runsSyncs := false } [.reloadPipelines pipelines,
        .reloadSyncs syncs] = (reloadPipelines policy { runsSyncs := false } pipelines).1 := by
      rw [run_eq_replay, reloadPipelines_eq]
      simp [Call.mutations, Function.comp_def]
    rw [reloads]
    refine sameSchedule_reloadPipelines steady (fun sync mem => ?_) final
    obtain ⟨c, -, added⟩ := exists_call_of_mem_finalJobs mem
    exact not_mem_mutations_false c sync added
  | true =>
    have reloads : [Call.reloadPipelines pipelines, .reloadSyncs syncs].flatMap
        (Call.mutations true) =
          (pipelines.map Job.pipeline ++ syncs.map Job.sync).map Mutation.add := by
      simp [Call.mutations, Function.comp_def]
    rw [run_eq_replay, run_eq_replay, reloads]
    refine sameSchedule_of_finalJobs steady true _ fun job => ?_
    cases job with
    | pipeline snapshot =>
      rw [← mem_finalPipelines_iff, ← final]
      simp
    | sync snapshot =>
      rw [← mem_finalSyncs_iff, ← finalSync]
      simp

end

/-- Under a steady dispatcher, reloading a list of pipelines on any schedule decides the keys of the
list as its last entries do, and a schedule that lived through any calls looks like one that was
built at once from what these calls leave, in any order. -/
theorem rebuilt_eq_maintained (policy : DispatcherPolicy) (accepts : String → Bool)
    (steady : policy.Steady accepts) (runsSyncs : Bool) :
    (∀ s, Reachable policy runsSyncs s →
        ∀ pipelines, Reloads policy runsSyncs s pipelines) ∧
      (∀ calls, (∀ c ∈ calls, c.IsPipelineChange) →
        ∀ pipelines, (∀ p, p ∈ pipelines ↔ p ∈ finalPipelines runsSyncs calls) →
          SameSchedule (run policy { runsSyncs } calls)
            (reloadPipelines policy { runsSyncs } pipelines).1) ∧
      ∀ calls pipelines syncs, (∀ p, p ∈ pipelines ↔ p ∈ finalPipelines runsSyncs calls) →
        (∀ sync, sync ∈ syncs ↔ sync ∈ finalSyncs runsSyncs calls) →
          SameSchedule (run policy { runsSyncs } calls)
            (run policy { runsSyncs } [.reloadPipelines pipelines, .reloadSyncs syncs]) := by
  refine ⟨fun s reached => (reached.settled steady).reloads steady runsSyncs, ?_, ?_⟩
  · intro calls changes pipelines final
    refine sameSchedule_reloadPipelines steady (fun sync mem => ?_) final
    obtain ⟨c, listed, added⟩ := exists_call_of_mem_finalJobs mem
    exact (changes c listed).not_mem_mutations sync added
  · intro calls pipelines syncs final finalSync
    exact sameSchedule_reload_both steady final finalSync

/-- The cron texts that the clock takes. -/
def isPattern (cron : String) : Bool := (Cron.Pattern.read? cron).isSome

theorem steady_clockwork : DispatcherPolicy.clockwork.Steady isPattern where
  distinct := clockwork_handle_injective
  takes _ cron := by
    simp only [DispatcherPolicy.clockwork, DispatcherPolicy.checkPattern, isPattern]
    cases Cron.Pattern.read? cron <;> simp
  removes _ := rfl

def edits : List Call :=
  [.addPipeline nightly, .addPipeline { nightly with id := 2 },
    .addPipeline { nightly with name := "stores" }, .removePipeline 2]

theorem rebuilt_eq_maintained_edits :
    DispatcherPolicy.clockwork.Steady isPattern ∧
      Reloads .clockwork true (run .clockwork {} edits) [nightly, { nightly with id := 2 }] ∧
      SameSchedule (run .clockwork {} edits)
        (reloadPipelines .clockwork {} [{ nightly with name := "stores" }]).1 := by
  obtain ⟨reloads, rebuilt, -⟩ := rebuilt_eq_maintained .clockwork isPattern steady_clockwork true
  have reached : Reachable .clockwork true (run .clockwork {} edits) := Reachable.fresh.run edits
  have changes : ∀ c ∈ edits, c.IsPipelineChange := by
    simp [edits, Call.IsPipelineChange]
  have final : finalPipelines true edits = [{ nightly with name := "stores" }] := rfl
  exact ⟨steady_clockwork, reloads _ reached _, rebuilt edits changes _ fun p => by rw [final]⟩

end Scheduler

end Geoflow
