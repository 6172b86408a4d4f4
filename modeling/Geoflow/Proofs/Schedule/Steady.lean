import Geoflow.Proofs.Schedule.Correspondence

set_option autoImplicit false

namespace Geoflow

/-- A dispatcher that takes exactly the normal cron texts of a kind, and removes what it is asked to
remove. -/
structure DispatcherPolicy.Steady (policy : DispatcherPolicy) (accepts : String → Bool) : Prop where
  distinct : Function.Injective policy.handle
  takes : ∀ n cron, policy.add n cron = .ok () ↔ accepts cron = true
  removes : ∀ n, policy.remove n = .ok ()

/-- The normal cron text on which a job is put on the clock, if it is at all. -/
def Job.plan (accepts : String → Bool) (job : Job) : Option String :=
  match job.schedule with
  | .ok (some text) =>
    match Cron.normalize text with
    | .ok cron => if accepts cron then some cron else none
    | .error _ => none
  | _ => none

/-- The last change of a key. -/
def lastChange? (changes : List Mutation) (key : JobKey) : Option Mutation :=
  changes.reverse.find? fun m => m.key == key

section

variable {changes : List Mutation} {key : JobKey}

theorem lastChange?_append (first second : List Mutation) (key : JobKey) :
    lastChange? (first ++ second) key = (lastChange? second key).or (lastChange? first key) := by
  rw [lastChange?, List.reverse_append, List.find?_append]
  rfl

theorem lastChange?_singleton (m : Mutation) (key : JobKey) :
    lastChange? [m] key = if m.key = key then some m else none := by
  rw [lastChange?, List.reverse_singleton, List.find?_singleton]
  simp only [beq_iff_eq]

theorem lastChange?_eq_none_iff : lastChange? changes key = none ↔ ∀ m ∈ changes, m.key ≠ key := by
  simp [lastChange?]

theorem lastChange?_cons_eq_some_iff {first m : Mutation} :
    lastChange? (first :: changes) key = some m ↔
      lastChange? changes key = some m ∨
        lastChange? changes key = none ∧ first = m ∧ first.key = key := by
  rw [← List.singleton_append, lastChange?_append, lastChange?_singleton, Option.or_eq_some_iff]
  refine or_congr_right (and_congr_right fun _ => ?_)
  split
  · rename_i same
    simp [same]
  · rename_i other
    simp [other]

/-- Nothing behind a change is about its key. -/
theorem lastChange?_of_split {m : Mutation} {before after : List Mutation}
    (elsewhere : ∀ other ∈ after, other.key ≠ m.key) :
    lastChange? (before ++ m :: after) m.key = some m := by
  have behind := lastChange?_eq_none_iff.mpr elsewhere
  rw [← List.singleton_append, lastChange?_append, lastChange?_append, behind,
    lastChange?_singleton, if_pos rfl]
  rfl

theorem key_of_lastChange? {m : Mutation} (last : lastChange? changes key = some m) :
    m.key = key := by
  simpa using List.find?_some last

end

namespace Scheduler

variable {policy : DispatcherPolicy} {accepts : String → Bool} {s : Scheduler} {job : Job}
  {cron : String} {handle : Nat} {m : Mutation}

/-- A live trigger runs a job on a cron text. -/
def Runs (s : Scheduler) (job : Job) (cron : String) : Prop :=
  ∃ t ∈ s.dispatcher.triggers, t.job = job ∧ t.cron = cron

/-- Entries and triggers in one-to-one correspondence. -/
structure Settled (policy : DispatcherPolicy) (s : Scheduler) : Prop where
  sound : s.Sound policy
  tracked : s.Tracked

theorem settled_initial (policy : DispatcherPolicy) (runsSyncs : Bool) :
    Settled policy { runsSyncs } :=
  ⟨sound_initial policy runsSyncs, fun _ mem => absurd mem List.not_mem_nil⟩

section

variable (steady : policy.Steady accepts)
include steady

theorem placed_iff : s.Placed policy job cron handle ↔
    job.plan accepts = some cron ∧ handle = policy.handle s.dispatcher.issued := by
  constructor
  · intro placed
    refine ⟨?_, placed.handle_eq⟩
    obtain ⟨text, schedule, normal, added⟩ := placed
    have accepted : accepts cron = true := by
      rw [← steady.takes s.dispatcher.calls]
      unfold Dispatcher.add at added
      split at added
      · cases added
      · rename_i answer
        exact answer
    simp only [Job.plan, schedule, normal, if_pos accepted]
  · rintro ⟨plan, rfl⟩
    unfold Job.plan at plan
    split at plan
    · rename_i text schedule
      split at plan
      · rename_i normal isNormal
        split at plan
        · rename_i accepted
          cases plan
          have taken := (steady.takes s.dispatcher.calls cron).mpr accepted
          exact ⟨text, schedule, isNormal, by simp only [Dispatcher.add, taken]⟩
        · cases plan
      · cases plan
    · cases plan

theorem Settled.mutate (settled : s.Settled policy) (m : Mutation) :
    (s.mutate policy m).Settled policy where
  sound := settled.sound.mutate steady.distinct m
  tracked := settled.tracked.mutate settled.sound steady.distinct
    (not_refused steady.removes s m.key)

theorem Settled.replay (settled : s.Settled policy) (changes : List Mutation) :
    (s.replay policy changes).Settled policy := by
  induction changes generalizing s with
  | nil => exact settled
  | cons m rest ih => exact ih (settled.mutate steady m)

/-- What runs after a change: what ran before under other keys, and what the change puts there. -/
theorem Settled.runs_mutate (settled : s.Settled policy) :
    (s.mutate policy m).Runs job cron ↔
      (m.key ≠ job.key ∧ s.Runs job cron) ∨ (m = .add job ∧ job.plan accepts = some cron) := by
  have live := settled.sound.mem_triggers_mutate settled.tracked
    (not_refused steady.removes s m.key)
  constructor
  · rintro ⟨t, mem, rfl, rfl⟩
    rcases (live t).mp mem with ⟨other, old⟩ | ⟨isAdd, -, placed⟩
    · exact Or.inl ⟨other, t, old, rfl, rfl⟩
    · exact Or.inr ⟨isAdd, ((placed_iff steady).mp placed).1⟩
  · rintro (⟨other, t, old, rfl, rfl⟩ | ⟨isAdd, plan⟩)
    · exact ⟨t, (live t).mpr (Or.inl ⟨other, old⟩), rfl, rfl⟩
    · have placed := (placed_iff (s := s.unregister policy job.key) steady).mpr ⟨plan, rfl⟩
      exact ⟨triggerOf job cron _, (live _).mpr (Or.inr ⟨isAdd, rfl, placed⟩), rfl, rfl⟩

/-- What runs after a history: of each key, what its last change put there, and what ran before if
there was none. -/
theorem Settled.runs_replay (settled : s.Settled policy) (changes : List Mutation) :
    (s.replay policy changes).Runs job cron ↔
      match lastChange? changes job.key with
      | none => s.Runs job cron
      | some m => m = .add job ∧ job.plan accepts = some cron := by
  induction changes using List.reverseRecOn with
  | nil => rfl
  | append_singleton changes m ih =>
    rw [replay_append, lastChange?_append, lastChange?_singleton]
    refine ((settled.replay steady changes).runs_mutate steady).trans ?_
    by_cases same : m.key = job.key
    · simp [same]
    · have notAdd : m ≠ .add job := fun isAdd => same (congrArg Mutation.key isAdd)
      simp only [same, ne_eq, not_false_eq_true, true_and, notAdd, false_and, or_false, if_false,
        Option.none_or]
      exact ih

end

end Scheduler

end Geoflow
