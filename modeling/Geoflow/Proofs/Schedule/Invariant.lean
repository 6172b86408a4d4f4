import Mathlib.Data.List.Nodup
import Geoflow.Proofs.Schedule.History

set_option autoImplicit false

namespace Geoflow

namespace Dispatcher

variable {policy : DispatcherPolicy}

theorem remove_granted (d : Dispatcher) (handle : Nat) (granted : policy.remove d.calls = .ok ()) :
    (d.remove policy handle).1.triggers = d.triggers.filter (·.handle != handle) := by
  simp only [remove, granted]

theorem remove_refused (d : Dispatcher) (handle : Nat) (refused : policy.remove d.calls ≠ .ok ()) :
    (d.remove policy handle).1.triggers = d.triggers := by
  unfold remove
  split
  · rfl
  · rename_i granted
    exact absurd granted refused

@[simp] theorem remove_issued (d : Dispatcher) (handle : Nat) :
    (d.remove policy handle).1.issued = d.issued := by
  unfold remove
  split <;> rfl

theorem remove_sublist (d : Dispatcher) (handle : Nat) :
    (d.remove policy handle).1.triggers.Sublist d.triggers := by
  unfold remove
  split
  · exact List.Sublist.refl _
  · exact List.filter_sublist

/-- The handle of a new trigger is the next one of the policy. -/
theorem handle_of_add {d : Dispatcher} {name cron : String} {job : Job} {handle : Nat}
    (added : (d.add policy name cron job).2 = .ok handle) : handle = policy.handle d.issued := by
  unfold add at added
  split at added
  · cases added
  · exact (Except.ok.inj added).symm

end Dispatcher

namespace Scheduler

variable (policy : DispatcherPolicy)

/-- The dispatcher will not let go of the trigger that the entry of a key refers to. -/
def RemovalRefused (s : Scheduler) (key : JobKey) : Prop :=
  (∃ entry ∈ s.jobs, entry.key = key) ∧ policy.remove s.dispatcher.calls ≠ .ok ()

/-- A job can be put on the clock: its schedule can be read and is active, has a normal form, and
the dispatcher takes it. -/
def Placed (s : Scheduler) (job : Job) (cron : String) (handle : Nat) : Prop :=
  ∃ text, job.schedule = .ok (some text) ∧ Cron.normalize text = .ok cron ∧
    (s.dispatcher.add policy job.key.toText cron job).2 = .ok handle

/-- A live trigger is referred to by the registry entry of its own key. -/
def Referenced (s : Scheduler) (t : Trigger) : Prop :=
  ∃ entry ∈ s.jobs, entry.key = t.job.key ∧ entry.handle = t.handle

/-- What holds after every list of changes, whatever the dispatcher refuses. -/
structure Sound (s : Scheduler) : Prop where
  ordered : s.jobs.Ordered
  named : ∀ t ∈ s.dispatcher.triggers, t.name = t.job.key.toText
  issued : ∀ t ∈ s.dispatcher.triggers, ∃ n < s.dispatcher.issued, t.handle = policy.handle n
  distinct : (s.dispatcher.triggers.map (·.handle)).Nodup
  live : ∀ entry ∈ s.jobs, ∃ t ∈ s.dispatcher.triggers, t.entry = entry

variable {policy}

theorem unregister_of_absent {s : Scheduler} {key : JobKey} (absent : s.jobs.find? key = none) :
    s.unregister policy key = s := by
  simp only [unregister, absent]

theorem unregister_of_found {s : Scheduler} {key : JobKey} {entry : Registration}
    (found : s.jobs.find? key = some entry) :
    s.unregister policy key = { s with
      jobs := s.jobs.erase key
      dispatcher := (s.dispatcher.remove policy entry.handle).1 } := by
  simp only [unregister, found]

@[simp] theorem unregister_jobs (policy : DispatcherPolicy) (s : Scheduler) (key : JobKey) :
    (s.unregister policy key).jobs = s.jobs.erase key := by
  cases found : s.jobs.find? key with
  | none =>
    rw [unregister_of_absent found, Registry.erase_of_absent (Registry.find?_eq_none.mp found)]
  | some entry => rw [unregister_of_found found]

@[simp] theorem unregister_issued (policy : DispatcherPolicy) (s : Scheduler) (key : JobKey) :
    (s.unregister policy key).dispatcher.issued = s.dispatcher.issued := by
  cases found : s.jobs.find? key with
  | none => rw [unregister_of_absent found]
  | some entry => simp only [unregister_of_found found, Dispatcher.remove_issued]

theorem unregister_sublist (policy : DispatcherPolicy) (s : Scheduler) (key : JobKey) :
    (s.unregister policy key).dispatcher.triggers.Sublist s.dispatcher.triggers := by
  cases found : s.jobs.find? key with
  | none => rw [unregister_of_absent found]
  | some entry =>
    rw [unregister_of_found found]
    exact s.dispatcher.remove_sublist entry.handle

/-- All that adding a job can do, once its key is out of the registry. -/
theorem mutate_add_cases (policy : DispatcherPolicy) (s : Scheduler) (job : Job) :
    (∃ cron handle, (s.unregister policy job.key).Placed policy job cron handle ∧
      (s.mutate policy (.add job)).jobs = (s.jobs.erase job.key).insert ⟨job.key, handle, cron⟩ ∧
      (s.mutate policy (.add job)).dispatcher.triggers =
        (s.unregister policy job.key).dispatcher.triggers
          ++ [⟨handle, job.key.toText, cron, job⟩] ∧
      (s.mutate policy (.add job)).dispatcher.issued = s.dispatcher.issued + 1) ∨
    ((∀ cron handle, ¬ (s.unregister policy job.key).Placed policy job cron handle) ∧
      (s.mutate policy (.add job)).jobs = s.jobs.erase job.key ∧
      (s.mutate policy (.add job)).dispatcher.triggers =
        (s.unregister policy job.key).dispatcher.triggers ∧
      (s.mutate policy (.add job)).dispatcher.issued = s.dispatcher.issued) := by
  cases schedule : job.schedule with
  | error e =>
    refine Or.inr ⟨?_, ?_⟩
    · rintro cron handle ⟨text, readable, -⟩
      cases schedule.symm.trans readable
    · simp [mutate, reregister, schedule]
  | ok active =>
    cases active with
    | none =>
      refine Or.inr ⟨?_, ?_⟩
      · rintro cron handle ⟨text, readable, -⟩
        cases schedule.symm.trans readable
      · simp [mutate, reregister, schedule]
    | some text =>
      cases normal : Cron.normalize text with
      | error fault =>
        refine Or.inr ⟨?_, ?_⟩
        · rintro cron handle ⟨text', readable, normal', -⟩
          cases schedule.symm.trans readable
          cases normal.symm.trans normal'
        · simp [mutate, reregister, schedule, register, normal]
      | ok cron =>
        cases answer : policy.add (s.unregister policy job.key).dispatcher.calls cron with
        | error e =>
          refine Or.inr ⟨?_, ?_⟩
          · rintro cron' handle ⟨text', readable, normal', added⟩
            cases schedule.symm.trans readable
            cases normal.symm.trans normal'
            simp [Dispatcher.add, answer] at added
          · simp [mutate, reregister, schedule, register, normal, Dispatcher.add, answer]
        | ok taken =>
          refine Or.inl ⟨cron, policy.handle s.dispatcher.issued, ⟨text, schedule, normal, ?_⟩, ?_⟩
          · simp [Dispatcher.add, answer]
          · simp [mutate, reregister, schedule, register, normal, Dispatcher.add, answer]

theorem Sound.same_trigger {s : Scheduler} (sound : s.Sound policy) {t u : Trigger}
    (left : t ∈ s.dispatcher.triggers) (right : u ∈ s.dispatcher.triggers)
    (same : t.handle = u.handle) : t = u :=
  List.inj_on_of_nodup_map sound.distinct left right same

theorem Sound.referenced_iff {s : Scheduler} (sound : s.Sound policy) {t : Trigger}
    (live : t ∈ s.dispatcher.triggers) : s.Referenced t ↔ t.entry ∈ s.jobs := by
  constructor
  · rintro ⟨entry, mem, -, sameHandle⟩
    obtain ⟨u, uLive, refers⟩ := sound.live entry mem
    have handles : u.handle = t.handle := by rw [← sameHandle, ← refers]; rfl
    rwa [sound.same_trigger live uLive handles.symm, refers]
  · intro mem
    exact ⟨t.entry, mem, rfl, rfl⟩

/-- The trigger that an entry refers to, told by its handle. -/
theorem Sound.entry_of_handle {s : Scheduler} (sound : s.Sound policy) {t : Trigger}
    {entry : Registration} (live : t ∈ s.dispatcher.triggers) (mem : entry ∈ s.jobs)
    (same : t.handle = entry.handle) : t.entry = entry := by
  obtain ⟨u, uLive, refers⟩ := sound.live entry mem
  have handles : t.handle = u.handle := by rw [same, ← refers]; rfl
  rw [sound.same_trigger live uLive handles, refers]

/-- Taking a key out leaves the triggers of other keys, and those that no entry refers to. -/
theorem Sound.mem_unregister {s : Scheduler} (sound : s.Sound policy) {t : Trigger} {key : JobKey}
    (live : t ∈ s.dispatcher.triggers) (kept : t.job.key ≠ key ∨ t.entry ∉ s.jobs) :
    t ∈ (s.unregister policy key).dispatcher.triggers := by
  cases found : s.jobs.find? key with
  | none => rwa [unregister_of_absent found]
  | some entry =>
    rw [unregister_of_found found]
    have mem := Registry.mem_of_find? found
    by_cases granted : policy.remove s.dispatcher.calls = .ok ()
    · rw [Dispatcher.remove_granted _ _ granted]
      refine List.mem_filter.mpr ⟨live, ?_⟩
      simp only [bne_iff_ne, ne_eq]
      intro same
      have refers := sound.entry_of_handle live mem same
      rcases kept with other | unreferenced
      · exact other ((congrArg Registration.key refers).trans (Registry.key_of_find? found))
      · exact unreferenced (refers ▸ mem)
    · rwa [Dispatcher.remove_refused _ _ granted]

theorem Sound.unregister {s : Scheduler} (sound : s.Sound policy) (key : JobKey) :
    (s.unregister policy key).Sound policy where
  ordered := by
    rw [unregister_jobs]
    exact sound.ordered.erase key
  named t mem := sound.named t ((unregister_sublist policy s key).subset mem)
  issued t mem := by
    rw [unregister_issued]
    exact sound.issued t ((unregister_sublist policy s key).subset mem)
  distinct := ((unregister_sublist policy s key).map _).nodup sound.distinct
  live entry mem := by
    rw [unregister_jobs, Registry.mem_erase] at mem
    obtain ⟨t, live, refers⟩ := sound.live entry mem.1
    have other : t.job.key ≠ key := by
      rw [← refers] at mem
      exact mem.2
    exact ⟨t, sound.mem_unregister live (Or.inl other), refers⟩

theorem Sound.fresh {s : Scheduler} (sound : s.Sound policy)
    (distinct : Function.Injective policy.handle) {t : Trigger}
    (live : t ∈ s.dispatcher.triggers) : t.handle ≠ policy.handle s.dispatcher.issued := by
  intro same
  obtain ⟨n, below, handle⟩ := sound.issued t live
  have equal := distinct (handle.symm.trans same)
  omega

theorem Placed.handle_eq {s : Scheduler} {job : Job} {cron : String} {handle : Nat}
    (placed : s.Placed policy job cron handle) : handle = policy.handle s.dispatcher.issued := by
  obtain ⟨text, -, -, added⟩ := placed
  exact Dispatcher.handle_of_add added

theorem Sound.of_same {s s' : Scheduler} (sound : s.Sound policy) (jobs : s'.jobs = s.jobs)
    (triggers : s'.dispatcher.triggers = s.dispatcher.triggers)
    (issued : s'.dispatcher.issued = s.dispatcher.issued) : s'.Sound policy where
  ordered := by
    rw [jobs]
    exact sound.ordered
  named := by
    rw [triggers]
    exact sound.named
  issued := by
    rw [triggers, issued]
    exact sound.issued
  distinct := by
    rw [triggers]
    exact sound.distinct
  live := by
    rw [jobs, triggers]
    exact sound.live

/-- A trigger with the next handle, and the entry that refers to it, keep a schedule sound. -/
theorem Sound.of_placed {s s' : Scheduler} (sound : s.Sound policy)
    (distinct : Function.Injective policy.handle) {job : Job} {cron : String} {handle : Nat}
    (absent : ∀ entry ∈ s.jobs, entry.key ≠ job.key)
    (next : handle = policy.handle s.dispatcher.issued)
    (jobs : s'.jobs = s.jobs.insert ⟨job.key, handle, cron⟩)
    (triggers : s'.dispatcher.triggers =
      s.dispatcher.triggers ++ [⟨handle, job.key.toText, cron, job⟩])
    (issued : s'.dispatcher.issued = s.dispatcher.issued + 1) : s'.Sound policy where
  ordered := by
    rw [jobs]
    exact sound.ordered.insert _ absent
  named t mem := by
    rw [triggers, List.mem_append, List.mem_singleton] at mem
    rcases mem with old | rfl
    · exact sound.named t old
    · rfl
  issued t mem := by
    rw [issued]
    rw [triggers, List.mem_append, List.mem_singleton] at mem
    rcases mem with old | rfl
    · obtain ⟨n, below, handle⟩ := sound.issued t old
      exact ⟨n, by omega, handle⟩
    · exact ⟨s.dispatcher.issued, by omega, next⟩
  distinct := by
    rw [triggers, List.map_append, List.map_singleton, List.nodup_append]
    refine ⟨sound.distinct, List.nodup_singleton _, ?_⟩
    intro old mem new single same
    obtain ⟨t, live, rfl⟩ := List.mem_map.mp mem
    rw [List.mem_singleton.mp single, next] at same
    exact sound.fresh distinct live same
  live entry mem := by
    rw [jobs, Registry.mem_insert] at mem
    rw [triggers]
    rcases mem with rfl | old
    · exact ⟨_, List.mem_append_right _ (List.mem_singleton_self _), rfl⟩
    · obtain ⟨t, live, refers⟩ := sound.live entry old
      exact ⟨t, List.mem_append_left _ live, refers⟩

theorem Sound.mutate {s : Scheduler} (sound : s.Sound policy)
    (distinct : Function.Injective policy.handle) (m : Mutation) :
    (s.mutate policy m).Sound policy := by
  cases m with
  | remove key => exact sound.unregister key
  | add job =>
    have before := sound.unregister job.key
    rcases mutate_add_cases policy s job with
      ⟨cron, handle, placed, jobs, triggers, issued⟩ | ⟨-, jobs, triggers, issued⟩
    · rw [← unregister_jobs policy] at jobs
      rw [← unregister_issued policy s job.key] at issued
      have absent : ∀ entry ∈ (s.unregister policy job.key).jobs, entry.key ≠ job.key := by
        intro entry mem
        rw [unregister_jobs] at mem
        exact (Registry.mem_erase.mp mem).2
      exact before.of_placed distinct absent placed.handle_eq jobs triggers issued
    · rw [← unregister_jobs policy] at jobs
      rw [← unregister_issued policy s job.key] at issued
      exact before.of_same jobs triggers issued

theorem Sound.replay {s : Scheduler} (sound : s.Sound policy)
    (distinct : Function.Injective policy.handle) (changes : List Mutation) :
    (s.replay policy changes).Sound policy := by
  induction changes generalizing s with
  | nil => exact sound
  | cons m rest ih => exact ih (sound.mutate distinct m)

theorem sound_initial (policy : DispatcherPolicy) (runsSyncs : Bool) :
    Sound policy { runsSyncs } where
  ordered := List.Pairwise.nil
  named t mem := by simp at mem
  issued t mem := by simp at mem
  distinct := List.nodup_nil
  live entry mem := by simp at mem

end Scheduler

end Geoflow
