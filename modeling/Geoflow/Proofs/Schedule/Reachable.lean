import Mathlib.Data.List.Induction
import Mathlib.Tactic.Tauto
import Geoflow.Proofs.Schedule.Invariant

set_option autoImplicit false

namespace Geoflow.Scheduler

variable {policy : DispatcherPolicy}

/-- Every live trigger can be reached through the registry. -/
def Tracked (s : Scheduler) : Prop := ∀ t ∈ s.dispatcher.triggers, s.Referenced t

/-- A live trigger that no registry entry refers to. -/
def Stray (s : Scheduler) (t : Trigger) : Prop :=
  t ∈ s.dispatcher.triggers ∧ ¬ s.Referenced t

theorem Sound.stray_iff {s : Scheduler} (sound : s.Sound policy) {t : Trigger} :
    s.Stray t ↔ t ∈ s.dispatcher.triggers ∧ t.entry ∉ s.jobs :=
  and_congr_right fun live => not_congr (sound.referenced_iff live)

/-- A removal that is granted takes out exactly the trigger of the key. -/
theorem Sound.mem_unregister_iff {s : Scheduler} (sound : s.Sound policy) (tracked : s.Tracked)
    {key : JobKey} (granted : ¬ s.RemovalRefused policy key) {t : Trigger} :
    t ∈ (s.unregister policy key).dispatcher.triggers ↔
      t ∈ s.dispatcher.triggers ∧ t.job.key ≠ key := by
  constructor
  · intro mem
    have live := (unregister_sublist policy s key).subset mem
    refine ⟨live, ?_⟩
    rintro rfl
    have referenced := (sound.referenced_iff live).mp (tracked t live)
    have removable : policy.remove s.dispatcher.calls = .ok () := by
      by_contra refused
      exact granted ⟨⟨t.entry, referenced, rfl⟩, refused⟩
    cases found : s.jobs.find? t.job.key with
    | none => exact Registry.find?_eq_none.mp found t.entry referenced rfl
    | some entry =>
      have same : entry = t.entry := sound.ordered.unique (Registry.mem_of_find? found) referenced
        (Registry.key_of_find? found)
      rw [unregister_of_found found, same, Dispatcher.remove_granted _ _ removable] at mem
      have gone := (List.mem_filter.mp mem).2
      simp [Trigger.entry] at gone
  · rintro ⟨live, other⟩
    exact sound.mem_unregister live (Or.inl other)

theorem Tracked.mutate {s : Scheduler} (tracked : s.Tracked) (sound : s.Sound policy)
    (distinct : Function.Injective policy.handle) {m : Mutation}
    (granted : ¬ s.RemovalRefused policy m.key) : (s.mutate policy m).Tracked := by
  have after := sound.mutate distinct m
  have kept : ∀ t ∈ (s.unregister policy m.key).dispatcher.triggers,
      t.entry ∈ s.jobs.erase m.key := by
    intro t mem
    obtain ⟨live, other⟩ := (sound.mem_unregister_iff tracked granted).mp mem
    exact Registry.mem_erase.mpr ⟨(sound.referenced_iff live).mp (tracked t live), other⟩
  intro t mem
  rw [after.referenced_iff mem]
  cases m with
  | remove key =>
    change t.entry ∈ (s.unregister policy key).jobs
    rw [unregister_jobs]
    exact kept t mem
  | add job =>
    rcases mutate_add_cases policy s job with
      ⟨cron, handle, placed, jobs, triggers, -⟩ | ⟨-, jobs, triggers, -⟩
    · rw [triggers, List.mem_append, List.mem_singleton] at mem
      rw [jobs, Registry.mem_insert]
      rcases mem with old | rfl
      · exact Or.inr (kept t old)
      · exact Or.inl rfl
    · rw [triggers] at mem
      rw [jobs]
      exact kept t mem

/-- A refused removal leaves its trigger behind. -/
theorem Sound.stray_of_refused {s : Scheduler} (sound : s.Sound policy) {key : JobKey}
    (refused : s.RemovalRefused policy key) : ∃ t, (s.unregister policy key).Stray t := by
  obtain ⟨⟨entry, mem, rfl⟩, refusal⟩ := refused
  obtain ⟨t, live, refers⟩ := sound.live entry mem
  have stays : t ∈ (s.unregister policy entry.key).dispatcher.triggers := by
    cases found : s.jobs.find? entry.key with
    | none => rwa [unregister_of_absent found]
    | some other =>
      rw [unregister_of_found found]
      rwa [Dispatcher.remove_refused _ _ refusal]
  refine ⟨t, (sound.unregister entry.key).stray_iff.mpr ⟨stays, ?_⟩⟩
  rw [unregister_jobs, Registry.mem_erase, refers]
  exact fun present => present.2 rfl

theorem Stray.unregister {s : Scheduler} {t : Trigger} (stray : s.Stray t)
    (sound : s.Sound policy) (key : JobKey) : (s.unregister policy key).Stray t := by
  obtain ⟨live, unreferenced⟩ := sound.stray_iff.mp stray
  refine (sound.unregister key).stray_iff.mpr ?_
  refine ⟨sound.mem_unregister live (Or.inr unreferenced), ?_⟩
  rw [unregister_jobs, Registry.mem_erase]
  exact fun present => unreferenced present.1

/-- What is stray once the key of a change is out stays stray when its job is added again: the new
entry has a handle of its own. -/
theorem Stray.mutate_of_unregister {s : Scheduler} {m : Mutation} {t : Trigger}
    (stray : (s.unregister policy m.key).Stray t) (sound : s.Sound policy)
    (distinct : Function.Injective policy.handle) : (s.mutate policy m).Stray t := by
  cases m with
  | remove key => exact stray
  | add job =>
    have before := sound.unregister job.key
    obtain ⟨live, unreferenced⟩ := before.stray_iff.mp stray
    rw [unregister_jobs] at unreferenced
    refine (sound.mutate distinct (.add job)).stray_iff.mpr ?_
    rcases mutate_add_cases policy s job with
      ⟨cron, handle, placed, jobs, triggers, -⟩ | ⟨-, jobs, triggers, -⟩
    · rw [triggers, jobs, Registry.mem_insert]
      refine ⟨List.mem_append_left _ live, ?_⟩
      rintro (new | old)
      · have same : t.handle = handle := congrArg Registration.handle new
        exact before.fresh distinct live (same.trans placed.handle_eq)
      · exact unreferenced old
    · rw [triggers, jobs]
      exact ⟨live, unreferenced⟩

/-- A stray trigger is never removed. -/
theorem Stray.replay {s : Scheduler} {t : Trigger} (stray : s.Stray t) (sound : s.Sound policy)
    (distinct : Function.Injective policy.handle) (changes : List Mutation) :
    (s.replay policy changes).Stray t := by
  induction changes generalizing s with
  | nil => exact stray
  | cons m rest ih =>
    exact ih ((stray.unregister sound m.key).mutate_of_unregister sound distinct)
      (sound.mutate distinct m)

/-- Nothing is left behind by a list of changes exactly if each removal in it is granted. -/
theorem tracked_replay_iff {s : Scheduler} (sound : s.Sound policy) (tracked : s.Tracked)
    (distinct : Function.Injective policy.handle) (changes : List Mutation) :
    (s.replay policy changes).Tracked ↔
      ∀ before m after, changes = before ++ m :: after →
        ¬ (s.replay policy before).RemovalRefused policy m.key := by
  induction changes generalizing s with
  | nil => simpa using tracked
  | cons m rest ih =>
    by_cases refused : s.RemovalRefused policy m.key
    · obtain ⟨t, stray⟩ := sound.stray_of_refused refused
      have lasting := (stray.mutate_of_unregister sound distinct).replay
        (sound.mutate distinct m) distinct rest
      constructor
      · intro all
        exact absurd (all t lasting.1) lasting.2
      · intro granted
        exact absurd refused (granted [] m rest rfl)
    · rw [replay_cons, ih (sound.mutate distinct m) (tracked.mutate sound distinct refused)]
      constructor
      · intro granted before m' after split
        cases before with
        | nil =>
          obtain ⟨rfl, -⟩ := List.cons.inj split
          exact refused
        | cons first before =>
          obtain ⟨rfl, later⟩ := List.cons.inj split
          exact granted before m' after later
      · intro granted before m' after split
        exact granted (m :: before) m' after (congrArg (m :: ·) split)

/-- The last change of the key of a job was an add of this job, and it went through: its schedule
could be read and is active, has the normal form `cron`, and the dispatcher gave `handle`. -/
def AddedLast (policy : DispatcherPolicy) (s : Scheduler) (changes : List Mutation) (job : Job)
    (cron : String) (handle : Nat) : Prop :=
  ∃ before after, changes = before ++ .add job :: after ∧ (∀ m ∈ after, m.key ≠ job.key) ∧
    ((s.replay policy before).unregister policy job.key).Placed policy job cron handle

def triggerOf (job : Job) (cron : String) (handle : Nat) : Trigger :=
  ⟨handle, job.key.toText, cron, job⟩

theorem Placed.unique {s : Scheduler} {job : Job} {cron cron' : String} {handle handle' : Nat}
    (first : s.Placed policy job cron handle) (second : s.Placed policy job cron' handle') :
    cron = cron' ∧ handle = handle' := by
  have handles := first.handle_eq.trans second.handle_eq.symm
  obtain ⟨text, schedule, normal, -⟩ := first
  obtain ⟨text', schedule', normal', -⟩ := second
  cases schedule.symm.trans schedule'
  exact ⟨Except.ok.inj (normal.symm.trans normal'), handles⟩

theorem addedLast_snoc {s : Scheduler} {changes : List Mutation} {m : Mutation} {job : Job}
    {cron : String} {handle : Nat} :
    s.AddedLast policy (changes ++ [m]) job cron handle ↔
      (m.key ≠ job.key ∧ s.AddedLast policy changes job cron handle) ∨
      (m = .add job ∧
        ((s.replay policy changes).unregister policy job.key).Placed policy job cron handle) := by
  constructor
  · rintro ⟨before, after, split, others, placed⟩
    rcases List.eq_nil_or_concat after with rfl | ⟨front, last, rfl⟩
    · obtain ⟨rfl, single⟩ := List.append_inj' split rfl
      exact Or.inr ⟨(List.cons.inj single).1, placed⟩
    · rw [List.concat_eq_append] at split others
      rw [← List.cons_append, ← List.append_assoc] at split
      obtain ⟨rfl, single⟩ := List.append_inj' split rfl
      obtain rfl := (List.cons.inj single).1
      refine Or.inl ⟨others m (List.mem_append_right _ (List.mem_singleton_self m)), ?_⟩
      exact ⟨before, front, rfl, fun m' mem => others m' (List.mem_append_left _ mem), placed⟩
  · rintro (⟨other, before, after, rfl, others, placed⟩ | ⟨rfl, placed⟩)
    · refine ⟨before, after ++ [m], by simp, ?_, placed⟩
      intro m' mem
      rcases List.mem_append.mp mem with old | new
      · exact others m' old
      · rwa [List.mem_singleton.mp new]
    · exact ⟨changes, [], rfl, by simp, placed⟩

/-- The triggers after a change: those of other keys, and the one that the change puts there. -/
theorem Sound.mem_triggers_mutate {s : Scheduler} (sound : s.Sound policy) (tracked : s.Tracked)
    {m : Mutation} (granted : ¬ s.RemovalRefused policy m.key) (t : Trigger) :
    t ∈ (s.mutate policy m).dispatcher.triggers ↔
      (m.key ≠ t.job.key ∧ t ∈ s.dispatcher.triggers) ∨
      (m = .add t.job ∧ t = triggerOf t.job t.cron t.handle ∧
        (s.unregister policy t.job.key).Placed policy t.job t.cron t.handle) := by
  have kept : t ∈ (s.unregister policy m.key).dispatcher.triggers ↔
      m.key ≠ t.job.key ∧ t ∈ s.dispatcher.triggers := by
    rw [sound.mem_unregister_iff tracked granted]
    exact ⟨fun ⟨live, other⟩ => ⟨other.symm, live⟩, fun ⟨other, live⟩ => ⟨live, other.symm⟩⟩
  cases m with
  | remove key =>
    refine kept.trans ⟨Or.inl, ?_⟩
    rintro (old | ⟨impossible, -⟩)
    · exact old
    · cases impossible
  | add job =>
    rcases mutate_add_cases policy s job with
      ⟨cron, handle, placed, -, triggers, -⟩ | ⟨unplaced, -, triggers, -⟩
    · rw [triggers, List.mem_append, List.mem_singleton]
      refine or_congr kept ?_
      constructor
      · rintro rfl
        exact ⟨rfl, rfl, placed⟩
      · rintro ⟨same, shape, placed'⟩
        obtain rfl := Mutation.add.inj same
        obtain ⟨rfl, rfl⟩ := placed.unique placed'
        exact shape
    · rw [triggers]
      refine kept.trans ⟨Or.inl, ?_⟩
      rintro (old | ⟨same, -, placed⟩)
      · exact old
      · obtain rfl := Mutation.add.inj same
        exact absurd placed (unplaced _ _)

theorem not_refused (granted : ∀ n, policy.remove n = .ok ()) (s : Scheduler) (key : JobKey) :
    ¬ s.RemovalRefused policy key := fun refused => refused.2 (granted _)

theorem tracked_replay (distinct : Function.Injective policy.handle)
    (granted : ∀ n, policy.remove n = .ok ()) (runsSyncs : Bool) (changes : List Mutation) :
    (replay policy { runsSyncs } changes).Tracked :=
  (tracked_replay_iff (sound_initial policy runsSyncs) (fun t mem => by simp at mem) distinct
    changes).mpr fun _ _ _ _ => not_refused granted _ _

/-- With removals granted, the live triggers are those of the jobs that were added last. -/
theorem mem_triggers_replay_iff (distinct : Function.Injective policy.handle)
    (granted : ∀ n, policy.remove n = .ok ()) (runsSyncs : Bool) (changes : List Mutation)
    (t : Trigger) :
    t ∈ (replay policy { runsSyncs } changes).dispatcher.triggers ↔
      t = triggerOf t.job t.cron t.handle ∧
        AddedLast policy { runsSyncs } changes t.job t.cron t.handle := by
  induction changes using List.reverseRecOn with
  | nil => simp [AddedLast]
  | append_singleton changes m ih =>
    have sound := (sound_initial policy runsSyncs).replay distinct changes
    have tracked := tracked_replay distinct granted runsSyncs changes
    rw [replay_append, addedLast_snoc]
    refine (sound.mem_triggers_mutate tracked (not_refused granted _ _) t).trans ?_
    rw [ih]
    tauto

end Geoflow.Scheduler
