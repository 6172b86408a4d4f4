import Geoflow.Proofs.Run.Interactive

set_option autoImplicit false

namespace Geoflow

/-- A source with no more items than a session can count. -/
def FitsCounter (source : RecordSource) : Prop :=
  ∀ items, source = .ok items → items.length < UInt64.size

/-- A scheduled run that saved the session of a stream that succeeded, and no other. -/
structure ScheduledRun.Persisted (source : RecordSource) (validator : Validator) (n : Nat)
    (ownerId : Int64) (now : Instant) (run : ScheduledRun) : Prop where
  saved : ∀ session, run.result = .ok session → run.saves = [session]
  unsaved : ∀ e, run.result = .error e → run.saves = []
  whole : ∀ items, source = .ok items → firstError? items = none →
    run.result = .ok (((leadingRecords items).mapIdx validator).foldl RunSession.record
      (.empty ownerId now)) ∧ run.state.validated = leadingRecords items
  /-- What was validated before the error is not saved. -/
  faulted : ∀ items e, source = .ok items → firstError? items = some e →
    run.result = .error (unwrapCancelled e) ∧ run.state.validated = offered n items
  unreached : ∀ e, source = .error e →
    run.result = .error (unwrapCancelled e) ∧ run.state.validated = []

/-- An interactive run that left a task behind which saves what was processed, if anything was. -/
structure InteractiveRun.Persisted (run : InteractiveRun) : Prop where
  task : run.persists.isSome = true ↔ run.state.validated ≠ []
  scope : ∀ task, run.persists = some task → task.scopeCancelled = false
  saved : run.state.validated ≠ [] → ∀ storeFirst, run.saves false storeFirst = [run.state.session]
  unsaved : run.state.validated = [] → ∀ cancels storeFirst, run.saves cancels storeFirst = []

section

variable {validator : Validator} {sink : ResultSink} {batchSize n : Nat} {items : List StreamItem}
  {source : RecordSource} {ownerId : Int64} {now : Instant} {cancelled : Bool}
  {records : List CanonicalRecord} {store : SessionStore} {stats : ExtractStats} {e : ExtractError}
  {state : RunState} {driven : Driven}

theorem goesOn_openSink : GoesOn validator openSink records := by
  intro answer mem
  obtain ⟨i, inside, rfl⟩ := List.mem_mapIdx.mp mem
  rfl

/-- A buffer is only needed for a source that has items. -/
theorem drive_cases {holds : Driven → Prop}
    (unreached : ∀ e, source = .error e → holds ⟨state, .error (unwrapCancelled e)⟩)
    (streamed : ∀ items, source = .ok items →
      Buffered (batchSize < 2 ^ 57) holds (drive (.ok items) validator sink batchSize state)) :
    Buffered (source.isOk = true → batchSize < 2 ^ 57) holds
      (drive source validator sink batchSize state) := by
  cases source with
  | error e =>
    refine .of_cases (fun _ => ⟨_, rfl, unreached e rfl⟩) fun oversized => ?_
    exact absurd (fun isOk => by cases isOk) oversized
  | ok items =>
    refine (streamed items rfl).congr ⟨fun small _ => small, fun small => small rfl⟩

namespace Driven

theorem scheduled_of_ok (outcome : driven.outcome = .ok stats) :
    (driven.scheduled store).result = .ok driven.state.session ∧
      (driven.scheduled store).saves = [driven.state.session] := by
  rw [scheduled, outcome]
  exact ⟨rfl, rfl⟩

theorem scheduled_of_error (outcome : driven.outcome = .error e) :
    (driven.scheduled store).result = .error e ∧ (driven.scheduled store).saves = [] := by
  rw [scheduled, outcome]
  exact ⟨rfl, rfl⟩

theorem scheduled_state : (driven.scheduled store).state = driven.state := by
  unfold scheduled
  split <;> rfl

theorem scheduled_saved {session : RunSession}
    (success : (driven.scheduled store).result = .ok session) :
    (driven.scheduled store).saves = [session] := by
  cases outcome : driven.outcome with
  | ok stats =>
    rw [(scheduled_of_ok outcome).1] at success
    cases success
    exact (scheduled_of_ok outcome).2
  | error e =>
    rw [(scheduled_of_error outcome).1] at success
    cases success

theorem scheduled_unsaved (failure : (driven.scheduled store).result = .error e) :
    (driven.scheduled store).saves = [] := by
  cases outcome : driven.outcome with
  | ok stats =>
    rw [(scheduled_of_ok outcome).1] at failure
    cases failure
  | error e => exact (scheduled_of_error outcome).2

end Driven

theorem RunEnding.persisted
    (ending : RunEnding validator openSink n items (.empty ownerId now) driven.state
      driven.outcome) :
    (driven.scheduled store).Persisted (.ok items) validator n ownerId now := by
  obtain ⟨state, outcome⟩ := ending.goes_on goesOn_openSink
  exact {
    saved := fun _ => driven.scheduled_saved
    unsaved := fun _ => driven.scheduled_unsaved
    whole := by
      rintro _ ⟨rfl⟩ faultless
      rw [faultless] at outcome
      rw [offered_of_faultless faultless] at state
      rw [(Driven.scheduled_of_ok outcome).1, Driven.scheduled_state, state]
      exact ⟨rfl, rfl⟩
    faulted := by
      rintro _ e ⟨rfl⟩ fault
      rw [fault] at outcome
      rw [(Driven.scheduled_of_error outcome).1, Driven.scheduled_state, state]
      exact ⟨rfl, rfl⟩
    unreached := fun e unreached => by cases unreached }

theorem runScheduled_persisted :
    Buffered (source.isOk = true → batchSize < 2 ^ 57)
      (fun run => run.Persisted source validator (max batchSize 1) ownerId now)
      (runScheduled source validator batchSize ownerId now store) := by
  suffices buffered : Buffered (source.isOk = true → batchSize < 2 ^ 57)
      (fun driven =>
        (driven.scheduled store).Persisted source validator (max batchSize 1) ownerId now)
      (drive source validator openSink batchSize { session := .empty ownerId now }) from
    buffered.map _ fun _ => id
  refine drive_cases ?_ ?_
  · rintro e rfl
    exact {
      saved := fun _ success => by cases success
      unsaved := fun _ _ => rfl
      whole := fun _ is => by cases is
      faulted := fun _ _ is => by cases is
      unreached := by
        rintro _ ⟨rfl⟩
        exact ⟨rfl, rfl⟩ }
  · rintro items rfl
    exact (drive_ended validator openSink batchSize (.empty ownerId now) items).imp
      fun driven ending => ending.persisted

theorem runScheduled_of_le (large : 2 ^ 57 ≤ batchSize) :
    runScheduled (.ok items) validator batchSize ownerId now store = .error .capacityOverflow := by
  rw [runScheduled, drive_of_le large]
  rfl

/-- The session of a run counts the records that were processed. -/
theorem drive_total (validator : Validator) (sink : ResultSink) (batchSize : Nat) (ownerId : Int64)
    (now : Instant) (cancelled : Bool) (fits : FitsCounter source) :
    Buffered (source.isOk = true → batchSize < 2 ^ 57)
      (fun driven => driven.state.session.totalCount.toNat = driven.state.validated.length)
      (drive source validator sink batchSize { session := .empty ownerId now, cancelled }) := by
  refine drive_cases (fun _ _ => rfl) ?_
  rintro items rfl
  cases cancelled with
  | true =>
    refine (drive_cancelled validator sink batchSize (.empty ownerId now) items).imp ?_
    rintro _ rfl
    rfl
  | false =>
    refine (drive_ended validator sink batchSize (.empty ownerId now) items).imp ?_
    intro driven ending
    obtain ⟨processed, state, inRecords⟩ := ending.processed_leading
    have count : processed.length < UInt64.size := by
      have bound := inRecords.length_le
      have rows := length_leadingRecords_le items
      have room := fits items rfl
      omega
    rw [state]
    exact RunState.past_total count

theorem Driven.interactive_persists
    (total : driven.state.session.totalCount.toNat = driven.state.validated.length) :
    driven.interactive.persists =
      if driven.state.validated = [] then none else some (.spawn driven.state.session) := by
  unfold interactive
  by_cases none : driven.state.validated = []
  · have zero : ¬ 0 < driven.state.session.totalCount := by
      rw [UInt64.lt_iff_toNat_lt, total, none]
      simp
    rw [if_neg zero, if_pos none]
  · have positive : 0 < driven.state.session.totalCount := by
      rw [UInt64.lt_iff_toNat_lt, total]
      exact List.length_pos_iff.mpr none
    rw [if_pos positive, if_neg none]

theorem InteractiveRun.persisted_of {run : InteractiveRun}
    (persists : run.persists =
      if run.state.validated = [] then none else some (.spawn run.state.session)) :
    run.Persisted := by
  by_cases none : run.state.validated = []
  · rw [if_pos none] at persists
    exact {
      task := by simp [persists, none]
      scope := by
        intro task is
        rw [persists] at is
        cases is
      saved := fun some => absurd none some
      unsaved := by
        intro _ cancels storeFirst
        rw [InteractiveRun.saves, persists]
        rfl }
  · rw [if_neg none] at persists
    exact {
      task := by simp [persists, none]
      scope := by
        intro task is
        rw [persists] at is
        cases is
        rfl
      saved := by
        intro _ storeFirst
        rw [InteractiveRun.saves, persists]
        rfl
      unsaved := fun is => absurd is none }

end

/-- With a buffer for a batch a scheduled run saves all or nothing, and an interactive run whatever
it has processed, as long as the counter of its session does not run over. -/
theorem runs_persisted_iff (source : RecordSource) (validator : Validator) (sink : ResultSink)
    (batchSize : Nat) (ownerId : Int64) (now : Instant) (cancelled : Bool) (store : SessionStore) :
    Buffered (source.isOk = true → batchSize < 2 ^ 57)
        (fun run => run.Persisted source validator (max batchSize 1) ownerId now)
        (runScheduled source validator batchSize ownerId now store) ∧
      (FitsCounter source →
        Buffered (source.isOk = true → batchSize < 2 ^ 57) (fun run => run.Persisted)
          (runInteractive source validator sink batchSize ownerId now cancelled)) :=
  ⟨runScheduled_persisted, fun fits =>
    (drive_total validator sink batchSize ownerId now cancelled fits).map _ fun _ total =>
      InteractiveRun.persisted_of (Driven.interactive_persists total)⟩

def brokenRows : List StreamItem :=
  [.ok ⟨[]⟩, .ok ⟨[]⟩, .error (.execution "gone"), .ok ⟨[]⟩]

theorem runs_persisted_iff_broken : FitsCounter (.ok brokenRows) ∧
    (∃ run, runScheduled (.ok brokenRows) (fun _ _ => {}) 1 7 .epoch (fun _ => .error "disk full") =
        .ok run ∧ run.saves = []) ∧
      ∃ run, runInteractive (.ok brokenRows) (fun _ _ => {}) (fun _ _ => {}) 1 7 .epoch false =
        .ok run ∧ run.Persisted := by
  have fits : FitsCounter (.ok brokenRows) := by
    intro items same
    cases same
    decide
  obtain ⟨scheduled, interactive⟩ := runs_persisted_iff (.ok brokenRows) (fun _ _ => {})
    (fun _ _ => {}) 1 7 .epoch false fun _ => .error "disk full"
  obtain ⟨run, given, persisted⟩ := scheduled.holds_iff.mpr fun _ => by decide
  have failed := persisted.faulted brokenRows (.execution "gone") rfl rfl
  exact ⟨fits, ⟨run, given, persisted.unsaved _ failed.1⟩,
    (interactive fits).holds_iff.mpr fun _ => by decide⟩

/-- Not even the session of an empty stream is saved where there is no buffer. -/
theorem session_unsaved : ¬ ∃ run,
    runScheduled (.ok []) (fun _ _ => {}) 9223372036854775807 5 .epoch = .ok run ∧
      run.saves = [.empty 5 .epoch] := by
  rintro ⟨run, given, -⟩
  rw [runScheduled_of_le (by decide)] at given
  cases given

end Geoflow
