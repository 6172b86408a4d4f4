import Geoflow.Proofs.Schedule.Comparison

set_option autoImplicit false

namespace Geoflow

/-- The jobs whose last change is an add, each as it was added then. -/
def finalJobs : List Mutation → List Job
  | [] => []
  | .add job :: rest =>
    if (lastChange? rest job.key).isSome then finalJobs rest else job :: finalJobs rest
  | .remove _ :: rest => finalJobs rest

theorem mem_finalJobs_cons {m : Mutation} {rest : List Mutation} {job : Job} :
    job ∈ finalJobs (m :: rest) ↔
      job ∈ finalJobs rest ∨ lastChange? rest job.key = none ∧ m = .add job := by
  cases m with
  | remove key => simp [finalJobs]
  | add first =>
    rw [finalJobs]
    split
    · rename_i later
      refine (or_iff_left ?_).symm
      rintro ⟨absent, same⟩
      rw [Mutation.add.inj same, absent] at later
      cases later
    · rename_i unchanged
      rw [List.mem_cons, or_comm]
      refine or_congr_right ⟨?_, fun last => (Mutation.add.inj last.2).symm⟩
      rintro rfl
      exact ⟨Option.not_isSome_iff_eq_none.mp unchanged, rfl⟩

/-- The final jobs are what the last changes of their keys added. -/
theorem mem_finalJobs_iff {changes : List Mutation} {job : Job} :
    job ∈ finalJobs changes ↔ lastChange? changes job.key = some (.add job) := by
  induction changes with
  | nil => simp [finalJobs, lastChange?]
  | cons m rest ih =>
    rw [mem_finalJobs_cons, lastChange?_cons_eq_some_iff, ih]
    refine or_congr_right (and_congr_right fun _ => (and_iff_left_of_imp ?_).symm)
    rintro rfl
    rfl

/-- A last change among adds is that of a job. -/
theorem exists_of_lastChange?_adds {jobs : List Job} {key : JobKey} {m : Mutation}
    (last : lastChange? (jobs.map .add) key = some m) :
    ∃ job ∈ jobs, m = .add job ∧ job.key = key := by
  have listed := List.mem_reverse.mp (List.mem_of_find?_eq_some last)
  obtain ⟨job, mem, rfl⟩ := List.mem_map.mp listed
  exact ⟨job, mem, rfl, key_of_lastChange? last⟩

/-- Jobs of which no two have the same key. -/
def KeysApart (jobs : List Job) : Prop := ∀ a ∈ jobs, ∀ b ∈ jobs, a.key = b.key → a = b

/-- Of jobs with different keys each is what was added last under its key. -/
theorem KeysApart.lastChange?_iff {jobs : List Job} (apart : KeysApart jobs) {job : Job} :
    lastChange? (jobs.map .add) job.key = some (.add job) ↔ job ∈ jobs := by
  constructor
  · intro last
    obtain ⟨other, mem, same, -⟩ := exists_of_lastChange?_adds last
    rwa [Mutation.add.inj same]
  · intro mem
    cases last : lastChange? (jobs.map .add) job.key with
    | none =>
      have absent := lastChange?_eq_none_iff.mp last (.add job) (List.mem_map_of_mem mem)
      exact absurd rfl absent
    | some m =>
      obtain ⟨other, listed, rfl, sameKey⟩ := exists_of_lastChange?_adds last
      rw [apart other listed job mem sameKey]

theorem KeysApart.lastChange?_congr {jobs others : List Job} (apart : KeysApart jobs)
    (same : ∀ job, job ∈ jobs ↔ job ∈ others) (key : JobKey) :
    lastChange? (jobs.map .add) key = lastChange? (others.map .add) key := by
  have othersApart : KeysApart others := fun a inA b inB =>
    apart a ((same a).mpr inA) b ((same b).mpr inB)
  refine Option.ext fun m => ⟨fun last => ?_, fun last => ?_⟩
  · obtain ⟨job, mem, rfl, rfl⟩ := exists_of_lastChange?_adds last
    exact othersApart.lastChange?_iff.mpr ((same job).mp mem)
  · obtain ⟨job, mem, rfl, rfl⟩ := exists_of_lastChange?_adds last
    exact apart.lastChange?_iff.mpr ((same job).mpr mem)

namespace Scheduler

variable {policy : DispatcherPolicy} {accepts : String → Bool} {s t : Scheduler} {job : Job}
  {cron : String} {key : JobKey} {changes others : List Mutation} {m : Mutation}

section

variable (steady : policy.Steady accepts)
include steady

/-- What the last change of a key leaves there does not depend on what was before it. -/
theorem sameAt_of_lastChange? (here : s.Settled policy) (there : t.Settled policy)
    (last : lastChange? changes key = some m) (lastThere : lastChange? others key = some m) :
    SameAt key (s.replay policy changes) (t.replay policy others) := by
  refine (here.replay steady changes).sameAt (there.replay steady others) ?_
  rintro job cron rfl
  rw [here.runs_replay steady, there.runs_replay steady, last, lastThere]

/-- Histories with the same last changes make the same of a schedule. -/
theorem sameSchedule_of_lastChange? (settled : s.Settled policy)
    (same : ∀ key, lastChange? changes key = lastChange? others key) :
    SameSchedule (s.replay policy changes) (s.replay policy others) := by
  have here := settled.replay steady changes
  have there := settled.replay steady others
  refine here.sameSchedule there fun key => here.sameAt there ?_
  rintro job cron rfl
  rw [settled.runs_replay steady, settled.runs_replay steady, same]

theorem sameSchedule_again (settled : s.Settled policy) (changes : List Mutation) :
    SameSchedule (s.replay policy changes) ((s.replay policy changes).replay policy changes) := by
  have once := settled.replay steady changes
  have twice := once.replay steady changes
  refine once.sameSchedule twice fun key => once.sameAt twice ?_
  rintro job cron rfl
  rw [once.runs_replay steady]
  cases last : lastChange? changes job.key with
  | none => rfl
  | some m => rw [settled.runs_replay steady, last]

/-- Changes of other keys leave the trigger of a key where it is. -/
theorem mem_triggers_replay_of_others (settled : s.Settled policy) {live : Trigger}
    (elsewhere : ∀ m ∈ changes, m.key ≠ live.job.key) :
    live ∈ (s.replay policy changes).dispatcher.triggers ↔ live ∈ s.dispatcher.triggers := by
  induction changes generalizing s with
  | nil => rfl
  | cons m rest ih =>
    obtain ⟨first, later⟩ := List.forall_mem_cons.mp elsewhere
    have notAdd : m ≠ .add live.job := fun isAdd => first (congrArg Mutation.key isAdd)
    rw [replay_cons, ih (settled.mutate steady m) later,
      settled.sound.mem_triggers_mutate settled.tracked (not_refused steady.removes s m.key)]
    simp only [first, ne_eq, not_false_eq_true, true_and, notAdd, false_and, or_false]

/-- A job that was added last is registered exactly if it has a plan. -/
theorem isRegistered_of_lastChange? (settled : s.Settled policy)
    (last : lastChange? changes job.key = some (.add job)) :
    (s.replay policy changes).isRegistered job.key = (job.plan accepts).isSome := by
  rw [Bool.eq_iff_iff, (settled.replay steady changes).isRegistered_iff_runs,
    Option.isSome_iff_exists]
  constructor
  · rintro ⟨other, cron, sameKey, runs⟩
    rw [settled.runs_replay steady, sameKey, last] at runs
    obtain ⟨same, plan⟩ := runs
    exact ⟨cron, Mutation.add.inj same ▸ plan⟩
  · rintro ⟨cron, plan⟩
    refine ⟨job, cron, rfl, ?_⟩
    rw [settled.runs_replay steady, last]
    exact ⟨rfl, plan⟩

/-- From the start, exactly the jobs that were added last run, on their plans. -/
theorem runs_fresh_iff (runsSyncs : Bool) (changes : List Mutation) :
    (replay policy { runsSyncs } changes).Runs job cron ↔
      lastChange? changes job.key = some (.add job) ∧ job.plan accepts = some cron := by
  rw [(settled_initial policy runsSyncs).runs_replay steady]
  cases last : lastChange? changes job.key with
  | none => simp [Runs]
  | some m => simp

/-- A history looks like its final jobs, added at once. -/
theorem sameSchedule_of_finalJobs (runsSyncs : Bool) (changes : List Mutation) {jobs : List Job}
    (final : ∀ job, job ∈ jobs ↔ job ∈ finalJobs changes) :
    SameSchedule (replay policy { runsSyncs } changes)
      (replay policy { runsSyncs } (jobs.map .add)) := by
  have apart : KeysApart jobs := by
    intro a inA b inB same
    have lastA := mem_finalJobs_iff.mp ((final a).mp inA)
    have lastB := mem_finalJobs_iff.mp ((final b).mp inB)
    rw [same, lastB] at lastA
    exact (Mutation.add.inj (Option.some.inj lastA)).symm
  have initial := settled_initial policy runsSyncs
  have here := initial.replay steady changes
  have there := initial.replay steady (jobs.map .add)
  refine here.sameSchedule there fun key => here.sameAt there ?_
  intro job cron _
  rw [runs_fresh_iff steady, runs_fresh_iff steady, apart.lastChange?_iff, final,
    mem_finalJobs_iff]

end

end Scheduler

end Geoflow
