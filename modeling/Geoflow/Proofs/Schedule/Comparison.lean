import Geoflow.Proofs.Schedule.Steady

set_option autoImplicit false

namespace Geoflow.Scheduler

variable {policy : DispatcherPolicy} {accepts : String → Bool} {s s' : Scheduler} {job : Job}
  {cron : String} {key : JobKey}

/-- Two schedules that look the same under a key. -/
structure SameAt (key : JobKey) (s s' : Scheduler) : Prop where
  registered : s.isRegistered key = s'.isRegistered key
  active : ∀ cron, ⟨key, cron⟩ ∈ s.activeJobs ↔ ⟨key, cron⟩ ∈ s'.activeJobs
  fired : s.dispatcher.fired key.toText = s'.dispatcher.fired key.toText

/-- Two schedules that look the same. -/
structure SameSchedule (s s' : Scheduler) : Prop where
  active : s.activeJobs = s'.activeJobs
  fired : ∀ name, s.dispatcher.fired name = s'.dispatcher.fired name

/-- A key that has the very same entry and trigger, handle included. -/
structure Untouched (key : JobKey) (s s' : Scheduler) : Prop where
  entries : ∀ entry : Registration, entry.key = key → (entry ∈ s.jobs ↔ entry ∈ s'.jobs)
  triggers : ∀ t : Trigger, t.job.key = key →
    (t ∈ s.dispatcher.triggers ↔ t ∈ s'.dispatcher.triggers)
  same : SameAt key s s'

section

variable (settled : s.Settled policy)
include settled

theorem Settled.mem_jobs_iff {entry : Registration} :
    entry ∈ s.jobs ↔ ∃ t ∈ s.dispatcher.triggers, t.entry = entry := by
  rw [(settled.sound.perm settled.tracked).mem_iff, List.mem_map]

theorem Settled.mem_activeJobs_iff :
    ⟨key, cron⟩ ∈ s.activeJobs ↔ ∃ job, job.key = key ∧ s.Runs job cron := by
  rw [activeJobs, List.mem_map]
  constructor
  · rintro ⟨entry, mem, same⟩
    obtain ⟨t, live, rfl⟩ := settled.mem_jobs_iff.mp mem
    cases same
    exact ⟨t.job, rfl, t, live, rfl, rfl⟩
  · rintro ⟨job, rfl, t, live, rfl, rfl⟩
    exact ⟨t.entry, settled.mem_jobs_iff.mpr ⟨t, live, rfl⟩, rfl⟩

theorem Settled.isRegistered_iff_runs :
    s.isRegistered key = true ↔ ∃ job cron, job.key = key ∧ s.Runs job cron := by
  have listed : s.isRegistered key = true ↔ ∃ cron, ⟨key, cron⟩ ∈ s.activeJobs := by
    rw [isRegistered_iff]
    constructor
    · rintro ⟨entry, mem, rfl⟩
      exact ⟨entry.cron, List.mem_map.mpr ⟨entry, mem, rfl⟩⟩
    · rintro ⟨cron, mem⟩
      obtain ⟨entry, isEntry, same⟩ := List.mem_map.mp mem
      exact ⟨entry, isEntry, congrArg ActiveJob.key same⟩
  rw [listed, exists_comm]
  exact exists_congr fun _ => settled.mem_activeJobs_iff

theorem Settled.fired_of_runs (runs : s.Runs job cron) :
    s.dispatcher.fired job.key.toText = [job] := by
  obtain ⟨t, live, rfl, rfl⟩ := runs
  have single := filter_eq_singleton (settled.sound.names_nodup settled.tracked) live
  rw [settled.sound.named t live] at single
  exact congrArg (List.map Trigger.job) single

theorem Settled.fired_of_no_key {name : String} (none : ∀ key : JobKey, key.toText ≠ name) :
    s.dispatcher.fired name = [] := by
  refine List.map_eq_nil_iff.mpr (List.filter_eq_nil_iff.mpr ?_)
  intro t live same
  exact none t.job.key ((settled.sound.named t live).symm.trans (beq_iff_eq.mp same))

/-- Every live trigger is that of an active job. -/
theorem Settled.length_triggers : s.dispatcher.triggers.length = s.activeJobs.length := by
  rw [activeJobs, List.length_map, (settled.sound.perm settled.tracked).length_eq, List.length_map]

theorem Settled.activeJobs_ascending : s.activeJobs.Pairwise fun a b => a.key.Precedes b.key :=
  List.pairwise_map.mpr settled.sound.ordered

end

section

variable (settled : s.Settled policy) (others : s'.Settled policy)
include settled others

/-- Under a key two schedules look the same if they run the same. -/
theorem Settled.sameAt
    (same : ∀ job cron, job.key = key → (s.Runs job cron ↔ s'.Runs job cron)) :
    SameAt key s s' := by
  have registered : s.isRegistered key = s'.isRegistered key := by
    rw [Bool.eq_iff_iff, settled.isRegistered_iff_runs, others.isRegistered_iff_runs]
    exact exists_congr fun job => exists_congr fun cron => and_congr_right (same job cron)
  refine ⟨registered, fun cron => ?_, ?_⟩
  · rw [settled.mem_activeJobs_iff, others.mem_activeJobs_iff]
    exact exists_congr fun job => and_congr_right (same job cron)
  · cases isRegistered : s.isRegistered key with
    | false =>
      rw [fired_eq_nil settled.sound settled.tracked isRegistered,
        fired_eq_nil others.sound others.tracked (registered.symm.trans isRegistered)]
    | true =>
      obtain ⟨job, cron, rfl, runs⟩ := settled.isRegistered_iff_runs.mp isRegistered
      rw [settled.fired_of_runs runs, others.fired_of_runs ((same job cron rfl).mp runs)]

/-- Schedules that look the same under every key look the same. -/
theorem Settled.sameSchedule (same : ∀ key, SameAt key s s') : SameSchedule s s' where
  active := by
    have nodup : ∀ {t : Scheduler}, t.Settled policy → t.activeJobs.Nodup := fun settled =>
      settled.activeJobs_ascending.imp fun before equal => before.2 (congrArg ActiveJob.key equal)
    have members : s.activeJobs.Perm s'.activeJobs :=
      (List.perm_ext_iff_of_nodup (nodup settled) (nodup others)).mpr fun active =>
        (same active.key).active active.cron
    refine members.eq_of_pairwise ?_ settled.activeJobs_ascending others.activeJobs_ascending
    intro a b _ _ before after
    exact absurd (JobKey.le_antisymm before.1 after.1) before.2
  fired name := by
    by_cases named : ∃ key : JobKey, key.toText = name
    · obtain ⟨key, rfl⟩ := named
      exact (same key).fired
    · have none : ∀ key : JobKey, key.toText ≠ name := fun key isKey => named ⟨key, isKey⟩
      rw [settled.fired_of_no_key none, others.fired_of_no_key none]

theorem SameSchedule.length_triggers (same : SameSchedule s s') :
    s.dispatcher.triggers.length = s'.dispatcher.triggers.length := by
  rw [settled.length_triggers, others.length_triggers, same.active]

theorem Settled.untouched (same : ∀ t : Trigger, t.job.key = key →
    (t ∈ s.dispatcher.triggers ↔ t ∈ s'.dispatcher.triggers)) : Untouched key s s' where
  entries entry isKey := by
    rw [settled.mem_jobs_iff, others.mem_jobs_iff]
    refine exists_congr fun t => and_congr_left fun isEntry => same t ?_
    rw [← isKey, ← isEntry]
    rfl
  triggers := same
  same := settled.sameAt others fun job cron isKey =>
    exists_congr fun t => and_congr_left fun isJob => same t (by rw [isJob.1, isKey])

end

end Geoflow.Scheduler
