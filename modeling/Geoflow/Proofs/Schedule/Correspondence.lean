import Geoflow.Proofs.Schedule.Reachable

set_option autoImplicit false

namespace Geoflow

theorem filter_eq_singleton {α β : Type} [BEq β] [LawfulBEq β] {f : α → β} {l : List α}
    (nodup : (l.map f).Nodup) {a : α} (mem : a ∈ l) : l.filter (fun x => f x == f a) = [a] := by
  induction l with
  | nil => simp at mem
  | cons first rest ih =>
    obtain ⟨absent, later⟩ := List.nodup_cons.mp nodup
    rcases List.mem_cons.mp mem with rfl | inRest
    · have others : rest.filter (fun x => f x == f a) = [] := by
        refine List.filter_eq_nil_iff.mpr ?_
        intro x inRest same
        exact absent (List.mem_map.mpr ⟨x, inRest, beq_iff_eq.mp same⟩)
      rw [List.filter_cons_of_pos (by simp), others]
    · have differs : ¬ (f first == f a) = true := fun same =>
        absent (List.mem_map.mpr ⟨a, inRest, (beq_iff_eq.mp same).symm⟩)
      rw [List.filter_cons, if_neg differs, ih later inRest]

namespace Scheduler

variable {policy : DispatcherPolicy}

/-- The registry holds the entries of the live triggers and nothing else. -/
theorem Sound.perm {s : Scheduler} (sound : s.Sound policy) (tracked : s.Tracked) :
    s.jobs.Perm (s.dispatcher.triggers.map Trigger.entry) := by
  have entries : (s.dispatcher.triggers.map Trigger.entry).Nodup := by
    apply List.Nodup.of_map Registration.handle
    rw [List.map_map]
    exact sound.distinct
  refine (List.perm_ext_iff_of_nodup sound.ordered.nodup entries).mpr ?_
  intro entry
  rw [List.mem_map]
  constructor
  · exact sound.live entry
  · rintro ⟨t, live, rfl⟩
    exact (sound.referenced_iff live).mp (tracked t live)

theorem Sound.keys_nodup {s : Scheduler} (sound : s.Sound policy) (tracked : s.Tracked) :
    (s.dispatcher.triggers.map (·.job.key)).Nodup := by
  have keys := (sound.perm tracked).map Registration.key
  rw [List.map_map] at keys
  refine keys.nodup_iff.mp ?_
  rw [List.nodup_iff_pairwise_ne, List.pairwise_map]
  exact sound.ordered.imp fun precedes => precedes.2

theorem Sound.names_nodup {s : Scheduler} (sound : s.Sound policy) (tracked : s.Tracked) :
    (s.dispatcher.triggers.map (·.name)).Nodup := by
  have names : s.dispatcher.triggers.map (·.name) =
      (s.dispatcher.triggers.map (·.job.key)).map JobKey.toText := by
    rw [List.map_map]
    exact List.map_congr_left sound.named
  rw [names]
  exact (sound.keys_nodup tracked).map JobKey.toText_injective

/-- What the calls alone say about a schedule. -/
structure FollowsCalls (policy : DispatcherPolicy) (calls : List Call) (s : Scheduler) : Prop where
  /-- Live triggers and registry entries are in one-to-one correspondence. -/
  oneToOne : s.jobs.Perm (s.dispatcher.triggers.map Trigger.entry)
  handles : (s.dispatcher.triggers.map (·.handle)).Nodup
  onePerKey : (s.dispatcher.triggers.map (·.job.key)).Nodup
  /-- A key is registered exactly if the last change of it was an add that went through. -/
  registered : ∀ key, s.isRegistered key = true ↔ ∃ job cron handle, job.key = key ∧
    AddedLast policy {} (calls.flatMap (Call.mutations true)) job cron handle
  /-- Its trigger carries the text of the key, the normal cron text and the last description. -/
  trigger : ∀ job cron handle,
    AddedLast policy {} (calls.flatMap (Call.mutations true)) job cron handle →
      s.dispatcher.triggers.filter (·.name == job.key.toText) =
        [⟨handle, job.key.toText, cron, job⟩] ∧
      s.dispatcher.fired job.key.toText = [job] ∧ ⟨job.key, cron⟩ ∈ s.activeJobs
  ascending : (s.activeJobs.map (·.key)).Pairwise JobKey.Precedes
  listed : ∀ key, key ∈ s.activeJobs.map (·.key) ↔ s.isRegistered key = true

theorem isRegistered_iff (s : Scheduler) (key : JobKey) :
    s.isRegistered key = true ↔ ∃ entry ∈ s.jobs, entry.key = key :=
  Registry.isSome_find?_iff

theorem activeJobs_keys (s : Scheduler) : s.activeJobs.map (·.key) = s.jobs.map (·.key) := by
  rw [activeJobs, List.map_map]
  rfl

theorem sound_run (distinct : Function.Injective policy.handle) (runsSyncs : Bool)
    (calls : List Call) : (run policy { runsSyncs } calls).Sound policy := by
  rw [run_eq_replay]
  exact (sound_initial policy runsSyncs).replay distinct _

theorem followsCalls_of_granted (distinct : Function.Injective policy.handle)
    (granted : ∀ n, policy.remove n = .ok ()) (calls : List Call) :
    FollowsCalls policy calls (run policy {} calls) := by
  have sound := sound_run distinct true calls
  have replayed := run_eq_replay policy {} calls
  have tracked : (run policy {} calls).Tracked := by
    rw [replayed]
    exact tracked_replay distinct granted true _
  have live := mem_triggers_replay_iff distinct granted true
    (calls.flatMap (Call.mutations true))
  rw [← replayed] at live
  refine ⟨sound.perm tracked, sound.distinct, sound.keys_nodup tracked, ?_, ?_, ?_, ?_⟩
  · intro key
    rw [isRegistered_iff]
    constructor
    · rintro ⟨entry, mem, rfl⟩
      obtain ⟨t, isLive, rfl⟩ := sound.live entry mem
      exact ⟨t.job, t.cron, t.handle, rfl, ((live t).mp isLive).2⟩
    · rintro ⟨job, cron, handle, rfl, added⟩
      have isLive := (live (triggerOf job cron handle)).mpr ⟨rfl, added⟩
      exact ⟨_, (sound.referenced_iff isLive).mp (tracked _ isLive), rfl⟩
  · intro job cron handle added
    have isLive := (live (triggerOf job cron handle)).mpr ⟨rfl, added⟩
    have single := filter_eq_singleton (sound.names_nodup tracked) isLive
    refine ⟨single, ?_, ?_⟩
    · exact congrArg (List.map Trigger.job) single
    · exact List.mem_map.mpr ⟨_, (sound.referenced_iff isLive).mp (tracked _ isLive), rfl⟩
  · rw [activeJobs_keys, List.pairwise_map]
    exact sound.ordered
  · intro key
    rw [activeJobs_keys, List.mem_map, isRegistered_iff]

theorem addedLast_append_iff {s : Scheduler} {changes more : List Mutation} {job : Job}
    {cron : String} {handle : Nat} (others : ∀ m ∈ more, m.key ≠ job.key) :
    s.AddedLast policy (changes ++ more) job cron handle ↔
      s.AddedLast policy changes job cron handle := by
  induction more using List.reverseRecOn with
  | nil => rw [List.append_nil]
  | append_singleton more m ih =>
    have other : m.key ≠ job.key := others m (by simp)
    have notAdd : m ≠ .add job := fun same => other (congrArg Mutation.key same)
    rw [← List.append_assoc, addedLast_snoc]
    simp only [other, ne_eq, not_false_eq_true, true_and, notAdd, false_and, or_false]
    exact ih fun m' mem => others m' (by simp [mem])

/-- Nothing fires under the text of a key that is not registered. -/
theorem fired_eq_nil {s : Scheduler} (sound : s.Sound policy) (tracked : s.Tracked) {key : JobKey}
    (absent : s.isRegistered key = false) : s.dispatcher.fired key.toText = [] := by
  refine List.map_eq_nil_iff.mpr (List.filter_eq_nil_iff.mpr ?_)
  intro t live same
  have sameKey : t.job.key = key :=
    JobKey.toText_injective ((sound.named t live).symm.trans (beq_iff_eq.mp same))
  have present := (isRegistered_iff s key).mpr
    ⟨t.entry, (sound.referenced_iff live).mp (tracked t live), sameKey⟩
  exact Bool.false_ne_true (absent.symm.trans present)

/-- A scheduler starts empty and runs syncs, and every removal is granted: then the calls alone say
which jobs are registered, which triggers are live, and what these run. Calls on other keys leave
what a key fires as it was. -/
theorem run_followsCalls (policy : DispatcherPolicy) (distinct : Function.Injective policy.handle)
    (granted : ∀ n, policy.remove n = .ok ()) (calls : List Call) :
    FollowsCalls policy calls (run policy {} calls) ∧
    ∀ key more, (∀ m ∈ more.flatMap (Call.mutations true), m.key ≠ key) →
      (run policy {} (calls ++ more)).isRegistered key = (run policy {} calls).isRegistered key ∧
      (run policy {} (calls ++ more)).dispatcher.fired key.toText =
        (run policy {} calls).dispatcher.fired key.toText := by
  have follows := followsCalls_of_granted distinct granted
  have tracked : ∀ all, (run policy {} all).Tracked := by
    intro all
    rw [run_eq_replay]
    exact tracked_replay distinct granted true _
  refine ⟨follows calls, ?_⟩
  intro key more others
  have same : (run policy {} (calls ++ more)).isRegistered key =
      (run policy {} calls).isRegistered key := by
    rw [Bool.eq_iff_iff, (follows _).registered, (follows _).registered, List.flatMap_append]
    refine exists_congr fun job => exists_congr fun cron => exists_congr fun handle => ?_
    refine and_congr_right ?_
    rintro rfl
    exact addedLast_append_iff others
  refine ⟨same, ?_⟩
  cases registered : (run policy {} calls).isRegistered key with
  | false =>
    rw [fired_eq_nil (sound_run distinct true _) (tracked _) (same.trans registered),
      fired_eq_nil (sound_run distinct true _) (tracked _) registered]
  | true =>
    obtain ⟨job, cron, handle, rfl, added⟩ := ((follows calls).registered key).mp registered
    rw [((follows calls).trigger job cron handle added).2.1]
    rw [← addedLast_append_iff others, ← List.flatMap_append] at added
    exact ((follows (calls ++ more)).trigger job cron handle added).2.1

def nightly : Pipeline where
  id := 1
  ownerId := 1
  dataSourceId := 1
  name := "shops"
  config := .obj [("cron", .str "0 2 * * *"), ("cron_active", .bool true)]

def polled : ExternalSync where
  id := 1
  ownerId := 1
  name := "partner"
  url := "http://partner/points"
  method := "GET"
  cronSchedule := "*/5 * * * *"

theorem clockwork_handle_injective : Function.Injective DispatcherPolicy.clockwork.handle :=
  fun _ _ same => Nat.succ.inj same

theorem run_followsCalls_shared_number :
    Function.Injective DispatcherPolicy.clockwork.handle ∧
    (∀ n, DispatcherPolicy.clockwork.remove n = .ok ()) ∧
    FollowsCalls .clockwork [.addPipeline nightly, .addSync polled, .removePipeline 1]
      (run .clockwork {} [.addPipeline nightly, .addSync polled, .removePipeline 1]) ∧
    (run .clockwork {} [.addPipeline nightly, .addSync polled, .removePipeline 1]).dispatcher.fired
      "erp-1" = [.sync polled] := by
  have follows := (run_followsCalls .clockwork clockwork_handle_injective (fun _ => rfl)
    [.addPipeline nightly, .addSync polled, .removePipeline 1]).1
  refine ⟨clockwork_handle_injective, fun _ => rfl, follows, ?_⟩
  have added : AddedLast .clockwork {} ([.addPipeline nightly, .addSync polled,
      .removePipeline 1].flatMap (Call.mutations true)) (.sync polled) "0 */5 * * * *" 2 :=
    ⟨[.add (.pipeline nightly)], [.remove (.pipeline 1)], rfl, by simp [Mutation.key, Job.key],
      "*/5 * * * *", by decide, by decide, by rfl⟩
  exact (follows.trigger _ _ _ added).2.1

/-- Whatever the dispatcher refuses, no trigger is left behind exactly if each removal that the
calls came to was granted; and then no key has two triggers. -/
theorem tracked_run_iff (policy : DispatcherPolicy) (distinct : Function.Injective policy.handle)
    (runsSyncs : Bool) (calls : List Call) :
    ((run policy { runsSyncs } calls).Tracked ↔
      ∀ before m after, calls.flatMap (Call.mutations runsSyncs) = before ++ m :: after →
        ¬ (replay policy { runsSyncs } before).RemovalRefused policy m.key) ∧
    ((run policy { runsSyncs } calls).Tracked →
      ((run policy { runsSyncs } calls).dispatcher.triggers.map (·.job.key)).Nodup) := by
  refine ⟨?_, (sound_run distinct runsSyncs calls).keys_nodup⟩
  rw [run_eq_replay]
  exact tracked_replay_iff (sound_initial policy runsSyncs) (fun t mem => by simp at mem) distinct _

theorem tracked_run_iff_clockwork :
    Function.Injective DispatcherPolicy.clockwork.handle ∧
    (run .clockwork {} [.addPipeline nightly, .addPipeline nightly]).Tracked ∧
    ((run .clockwork {} [.addPipeline nightly,
      .addPipeline nightly]).dispatcher.triggers.map (·.job.key)).Nodup := by
  obtain ⟨tracked, keys⟩ := tracked_run_iff .clockwork clockwork_handle_injective true
    [.addPipeline nightly, .addPipeline nightly]
  have reached := tracked.mpr fun _ _ _ _ => not_refused (fun _ => rfl) _ _
  exact ⟨clockwork_handle_injective, reached, keys reached⟩

/-- A dispatcher that takes every trigger and lets go of none. -/
def stuck : DispatcherPolicy where
  add _ _ := .ok ()
  remove _ := .error (.dispatcher "stuck")
  life _ _ := .ok ()

/-- Removing a job whose trigger is stuck leaves the trigger live without an entry, and adding the
job again leaves two triggers of one key. -/
theorem refused_removal_leaves_stray :
    (run stuck {} [.addPipeline nightly, .removePipeline 1]).jobs = [] ∧
    ¬ (run stuck {} [.addPipeline nightly, .removePipeline 1]).Tracked ∧
    (run stuck {} [.addPipeline nightly, .addPipeline nightly]).dispatcher.triggers.map
      (·.job.key) = [.pipeline 1, .pipeline 1] := by
  refine ⟨by rfl, ?_, by rfl⟩
  intro tracked
  obtain ⟨entry, mem, -⟩ := tracked ⟨1, "pipeline-1", "0 0 2 * * *", .pipeline nightly⟩
    (List.mem_singleton_self _)
  cases mem

end Scheduler

end Geoflow
