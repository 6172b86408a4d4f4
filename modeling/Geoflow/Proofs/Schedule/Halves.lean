import Geoflow.Proofs.Json.Fields
import Geoflow.Proofs.Schedule.History
import Geoflow.Sql.Statement
import Mathlib.Data.List.Forall2

set_option autoImplicit false

namespace Geoflow

variable {d d' : List (String × Json)}

def PipelineConfig.names : List String := ["base_table", "joins", "mappings", "filters", "limit"]

def ScheduleConfig.names : List String := ["cron", "cron_active"]

section Documents

variable (ascending : Json.Ascending d) (ascending' : Json.Ascending d')

include ascending ascending'

theorem PipelineConfig.read_of_agree (agree : Json.AgreeOn PipelineConfig.names d d') :
    PipelineConfig.read (Json.obj d) = PipelineConfig.read (Json.obj d') := by
  have field {α : Type} := @Reading.alike_withDefault Json α d d' ascending ascending' _ agree
    "struct PipelineConfig" 5
  have base := field 0 "base_table" (by decide) readString ""
  have joins := field 1 "joins" (by decide) (readList JoinConfig.read) []
  have mappings := field 2 "mappings" (by decide) (readList ColumnMapping.read) []
  have filters := field 3 "filters" (by decide) (readList FilterConfig.read) []
  have limit := field 4 "limit" (by decide) (readOption readUInt64) none
  have twoFields := (base.map PipelineConfig.mk).seq ascending ascending' joins
  have fourFields := (twoFields.seq ascending ascending' mappings).seq ascending ascending' filters
  exact (fourFields.seq ascending ascending' limit).toExcept_eq

theorem ScheduleConfig.read_of_agree (agree : Json.AgreeOn ScheduleConfig.names d d') :
    ScheduleConfig.read (Json.obj d) = ScheduleConfig.read (Json.obj d') := by
  have field {α : Type} := @Reading.alike_withDefault Json α d d' ascending ascending' _ agree
    "struct ScheduleConfig" 2
  have cron := field 0 "cron" (by decide) (readOption readString) none
  have active := field 1 "cron_active" (by decide) readBool false
  exact ((cron.map ScheduleConfig.mk).seq ascending ascending' active).toExcept_eq

/-- The statement of a document depends on the extraction half alone. -/
theorem Sql.compileDocument_of_agree (agree : Json.AgreeOn PipelineConfig.names d d')
    (dialect : Dialect) :
    Sql.compileDocument (.obj d) dialect = Sql.compileDocument (.obj d') dialect := by
  rw [Sql.compileDocument, Sql.compileDocument, Sql.readConfig, Sql.readConfig,
    PipelineConfig.read_of_agree ascending ascending' agree]

end Documents

namespace Scheduler

/-- Two triggers of one job: the same but for the description that they run. -/
structure TriggerAlike (t t' : Trigger) : Prop where
  handle : t.handle = t'.handle
  name : t.name = t'.name
  cron : t.cron = t'.cron
  key : t.job.key = t'.job.key

/-- Two schedulers that differ in the descriptions of their jobs at most. -/
structure Alike (s s' : Scheduler) : Prop where
  runsSyncs : s.runsSyncs = s'.runsSyncs
  jobs : s.jobs = s'.jobs
  triggers : List.Forall₂ TriggerAlike s.dispatcher.triggers s'.dispatcher.triggers
  issued : s.dispatcher.issued = s'.dispatcher.issued
  removed : s.dispatcher.removed = s'.dispatcher.removed
  calls : s.dispatcher.calls = s'.dispatcher.calls
  life : s.dispatcher.life = s'.dispatcher.life

variable (policy : DispatcherPolicy) {s s' : Scheduler} {job job' : Job}

theorem Alike.refl (s : Scheduler) : s.Alike s where
  runsSyncs := rfl
  jobs := rfl
  triggers := List.forall₂_same.mpr fun _ _ => ⟨rfl, rfl, rfl, rfl⟩
  issued := rfl
  removed := rfl
  calls := rfl
  life := rfl

theorem Alike.unregister (alike : s.Alike s') (key : JobKey) :
    (s.unregister policy key).Alike (s'.unregister policy key) := by
  unfold Scheduler.unregister
  rw [← alike.jobs]
  cases s.jobs.find? key with
  | none => exact alike
  | some entry =>
    simp only [Dispatcher.remove]
    rw [← alike.calls]
    cases policy.remove s.dispatcher.calls with
    | error e =>
      exact { alike with jobs := rfl, calls := rfl }
    | ok answer =>
      have left : List.Forall₂ TriggerAlike
          (s.dispatcher.triggers.filter (·.handle != entry.handle))
          (s'.dispatcher.triggers.filter (·.handle != entry.handle)) := by
        apply List.rel_filter _ alike.triggers
        intro t t' same
        simp only [same.handle]
      exact { alike with
        jobs := rfl
        triggers := left
        removed := congrArg (· + 1) alike.removed
        calls := rfl }

theorem Alike.register (alike : s.Alike s') (sameKey : job.key = job'.key) (cron : String) :
    (s.register policy job cron).1.Alike (s'.register policy job' cron).1 ∧
      (s.register policy job cron).2 = (s'.register policy job' cron).2 := by
  unfold Scheduler.register
  cases Cron.normalize cron with
  | error fault => exact ⟨alike, rfl⟩
  | ok normal =>
    simp only [Dispatcher.add]
    rw [← alike.calls]
    cases policy.add s.dispatcher.calls normal with
    | error e => exact ⟨{ alike with calls := rfl }, rfl⟩
    | ok answer =>
      refine ⟨?_, rfl⟩
      have added : TriggerAlike ⟨policy.handle s.dispatcher.issued, job.key.toText, normal, job⟩
          ⟨policy.handle s'.dispatcher.issued, job'.key.toText, normal, job'⟩ :=
        ⟨congrArg policy.handle alike.issued, congrArg JobKey.toText sameKey, rfl, sameKey⟩
      have entered : s.jobs.insert ⟨job.key, policy.handle s.dispatcher.issued, normal⟩ =
          s'.jobs.insert ⟨job'.key, policy.handle s'.dispatcher.issued, normal⟩ := by
        rw [alike.jobs, sameKey, alike.issued]
      exact { alike with
        jobs := entered
        triggers := List.rel_append alike.triggers (List.Forall₂.cons added List.Forall₂.nil)
        issued := congrArg (· + 1) alike.issued
        calls := rfl }

theorem Alike.reregister (alike : s.Alike s') (sameKey : job.key = job'.key)
    (cron : Except ScheduleError (Option String)) :
    (s.reregister policy job cron).1.Alike (s'.reregister policy job' cron).1 ∧
      (s.reregister policy job cron).2 = (s'.reregister policy job' cron).2 := by
  have without := alike.unregister policy job.key
  simp only [Scheduler.reregister, ← sameKey]
  cases cron with
  | error e => exact ⟨without, rfl⟩
  | ok given =>
    cases given with
    | none => exact ⟨without, rfl⟩
    | some cron => exact without.register policy sameKey cron

/-- Two changes of one job: a removal, or two descriptions with one schedule. -/
inductive MutationAlike : Mutation → Mutation → Prop
  | add {job job' : Job} (sameKey : job.key = job'.key)
      (sameSchedule : job.schedule = job'.schedule) :
    MutationAlike (.add job) (.add job')
  | remove (key : JobKey) : MutationAlike (.remove key) (.remove key)

theorem Alike.mutate {m m' : Mutation} (alike : s.Alike s') (same : MutationAlike m m') :
    (s.mutate policy m).Alike (s'.mutate policy m') := by
  cases same with
  | @add job job' sameKey sameSchedule =>
    have added := alike.reregister policy sameKey job.schedule
    simp only [Scheduler.mutate]
    rw [← sameSchedule]
    exact added.1
  | remove key => exact alike.unregister policy key

theorem Alike.replay {changes changes' : List Mutation} (alike : s.Alike s')
    (same : List.Forall₂ MutationAlike changes changes') :
    (s.replay policy changes).Alike (s'.replay policy changes') := by
  induction same generalizing s s' with
  | nil => exact alike
  | cons first _ ih => exact ih (alike.mutate policy first)

/-- Two descriptions of one pipeline with one schedule. -/
structure PipelineAlike (p p' : Pipeline) : Prop where
  id : p.id = p'.id
  schedule : pipelineCron p = pipelineCron p'

/-- Two calls that are about the same jobs, with the same schedules. -/
inductive CallAlike : Call → Call → Prop
  | addPipeline {p p' : Pipeline} (same : PipelineAlike p p') :
    CallAlike (.addPipeline p) (.addPipeline p')
  | reloadPipelines {ps ps' : List Pipeline} (same : List.Forall₂ PipelineAlike ps ps') :
    CallAlike (.reloadPipelines ps) (.reloadPipelines ps')
  | refl (c : Call) : CallAlike c c

theorem PipelineAlike.mutation {p p' : Pipeline} (same : PipelineAlike p p') :
    MutationAlike (.add (.pipeline p)) (.add (.pipeline p')) :=
  .add (congrArg JobKey.pipeline same.id) same.schedule

theorem MutationAlike.refl (m : Mutation) : MutationAlike m m := by
  cases m with
  | add job => exact .add rfl rfl
  | remove key => exact .remove key

theorem CallAlike.mutations {c c' : Call} (same : CallAlike c c') (runsSyncs : Bool) :
    List.Forall₂ MutationAlike (c.mutations runsSyncs) (c'.mutations runsSyncs) := by
  cases same with
  | addPipeline same => exact .cons same.mutation .nil
  | reloadPipelines same =>
    simp only [Call.mutations]
    induction same with
    | nil => exact .nil
    | cons first _ ih => exact .cons first.mutation ih
  | refl c => exact List.forall₂_same.mpr fun m _ => MutationAlike.refl m

/-- Histories that differ in what pipelines extract lead to schedulers that are alike. -/
theorem Alike.run {calls calls' : List Call} (alike : s.Alike s')
    (same : List.Forall₂ CallAlike calls calls') :
    (s.run policy calls).Alike (s'.run policy calls') := by
  have changes : List.Forall₂ MutationAlike (calls.flatMap (Call.mutations s.runsSyncs))
      (calls'.flatMap (Call.mutations s.runsSyncs)) := by
    induction same with
    | nil => exact .nil
    | cons first _ ih =>
      rw [List.flatMap_cons, List.flatMap_cons]
      exact List.rel_append (first.mutations _) ih
  rw [run_eq_replay, run_eq_replay, ← alike.runsSyncs]
  exact alike.replay policy changes

theorem pipelineAlike_of_agree {p p' : Pipeline} (ascending : Json.Ascending d)
    (ascending' : Json.Ascending d') (agree : Json.AgreeOn ScheduleConfig.names d d')
    (sameId : p.id = p'.id) (document : p.config = .obj d) (document' : p'.config = .obj d') :
    PipelineAlike p p' where
  id := sameId
  schedule := by
    have same := ScheduleConfig.read_of_agree ascending ascending' agree
    rw [pipelineCron, pipelineCron, document, document', same, sameId]

end Scheduler

/-- Documents that agree on the extraction half have one statement or one error, and documents that
agree on the scheduling half are scheduled alike. A scheduler answers the same to both, and whatever
is asked of it afterwards, its state is the same but for the descriptions that its triggers run. -/
theorem Pipeline.halves_independent (ascending : Json.Ascending d)
    (ascending' : Json.Ascending d') :
    (Json.AgreeOn PipelineConfig.names d d' → ∀ dialect,
      Sql.compileDocument (.obj d) dialect = Sql.compileDocument (.obj d') dialect) ∧
    (Json.AgreeOn ScheduleConfig.names d d' →
      ScheduleConfig.read (Json.obj d) = ScheduleConfig.read (Json.obj d') ∧
      ∀ (policy : DispatcherPolicy) (s s' : Scheduler) (p p' : Pipeline), s.Alike s' →
        p.id = p'.id → p.config = .obj d → p'.config = .obj d' →
          (s.addPipeline policy p).2 = (s'.addPipeline policy p').2 ∧
          ∀ calls calls', List.Forall₂ Scheduler.CallAlike calls calls' →
            ((s.addPipeline policy p).1.run policy calls).Alike
              ((s'.addPipeline policy p').1.run policy calls')) := by
  constructor
  · intro agree dialect
    exact Sql.compileDocument_of_agree ascending ascending' agree dialect
  · intro agree
    refine ⟨ScheduleConfig.read_of_agree ascending ascending' agree, ?_⟩
    intro policy s s' p p' alike sameId document document'
    have same := Scheduler.pipelineAlike_of_agree ascending ascending' agree sameId document
      document'
    have sameKey : (Job.pipeline p).key = (Job.pipeline p').key :=
      congrArg JobKey.pipeline sameId
    have added := alike.reregister policy sameKey (Scheduler.pipelineCron p)
    simp only [Scheduler.addPipeline, ← same.schedule]
    constructor
    · exact added.2
    · intro calls calls' sameCalls
      exact added.1.run policy sameCalls

def nightly : List (String × Json) :=
  [("base_table", .str "t"), ("cron", .str "0 5 * * *"), ("cron_active", .bool true),
    ("mappings", .arr [.obj [("expression", .str "t.id"), ("target_column", .str "id")]])]

/-- The document with a schedule that is no schedule. -/
def nightlyUnscheduled : List (String × Json) :=
  [("base_table", .str "t"), ("cron", .int 5), ("cron_active", .str "yes"),
    ("mappings", .arr [.obj [("expression", .str "t.id"), ("target_column", .str "id")]]),
    ("note", .null)]

/-- The document with an extraction that is none. -/
def nightlyEmptied : List (String × Json) :=
  [("cron", .str "0 5 * * *"), ("cron_active", .bool true), ("mappings", .int 7)]

def nightlyPipeline (config : List (String × Json)) : Pipeline := ⟨1, 1, 1, "nightly", .obj config⟩

theorem Pipeline.halves_independent_nightly :
    Json.Ascending nightly ∧ Json.Ascending nightlyUnscheduled ∧ Json.Ascending nightlyEmptied ∧
    Sql.compileDocument (.obj nightlyUnscheduled) .mysql =
      .ok "SELECT\n    t.id AS id\nFROM t" ∧
    ScheduleConfig.read (Json.obj nightlyEmptied) = .ok ⟨some "0 5 * * *", true⟩ ∧
    (Scheduler.addPipeline .clockwork {} (nightlyPipeline nightlyEmptied)).2 = .ok () := by
  have ascending : Json.Ascending nightly := by decide
  have unscheduled : Json.Ascending nightlyUnscheduled := by decide
  have emptied : Json.Ascending nightlyEmptied := by decide
  have extraction : Json.AgreeOn PipelineConfig.names nightly nightlyUnscheduled := by
    intro name listed
    simp only [PipelineConfig.names, List.mem_cons, List.not_mem_nil, or_false] at listed
    rcases listed with rfl | rfl | rfl | rfl | rfl <;> rfl
  have schedule : Json.AgreeOn ScheduleConfig.names nightly nightlyEmptied := by
    intro name listed
    simp only [ScheduleConfig.names, List.mem_cons, List.not_mem_nil, or_false] at listed
    rcases listed with rfl | rfl <;> rfl
  have compiled := (Pipeline.halves_independent ascending unscheduled).1 extraction .mysql
  have scheduled := (Pipeline.halves_independent ascending emptied).2 schedule
  have added := scheduled.2 .clockwork {} {} (nightlyPipeline nightly)
    (nightlyPipeline nightlyEmptied) (Scheduler.Alike.refl {}) rfl rfl rfl
  refine ⟨ascending, unscheduled, emptied, ?_, ?_, ?_⟩
  · rw [← compiled]
    rfl
  · rw [← scheduled.1]
    rfl
  · rw [← added.1]
    rfl

end Geoflow
