import Geoflow.Proofs.Extract.Interruption
import Geoflow.Proofs.Run.Counting
import Geoflow.Proofs.Run.Processing

set_option autoImplicit false

namespace Geoflow

/-- The error that a run ends with by an answer of its sink. -/
def SinkAnswer.verdict (answer : SinkAnswer) : ExtractError :=
  match answer.failure with
  | some failure => if failure.isCancelled then .cancelled else .consumer failure
  | none => .cancelled

/-- The records that a run is given if nothing stops it. Those that wait to fill a batch when an
error comes are not among them. -/
def offered (n : Nat) (items : List StreamItem) : List CanonicalRecord :=
  match firstError? items with
  | none => leadingRecords items
  | some _ => (leadingRecords items).take ((leadingRecords items).length / n * n)

def wholeStats (n : Nat) (items : List StreamItem) : ExtractStats :=
  ⟨.ofNat items.length, .ofNat (chunks n (leadingRecords items)).length⟩

/-- The ways in which a run ends that was not cancelled beforehand: its state and its outcome. -/
inductive RunEnding (validator : Validator) (sink : ResultSink) (n : Nat)
    (items : List StreamItem) (session : RunSession) :
    RunState → Except ExtractError ExtractStats → Prop
  | faulted {e : ExtractError} (goesOn : GoesOn validator sink (offered n items))
      (fault : firstError? items = some e) :
      RunEnding validator sink n items session (.past validator sink session (offered n items))
        (.error (unwrapCancelled e))
  | finished (goesOn : GoesOn validator sink (offered n items))
      (faultless : firstError? items = none) :
      RunEnding validator sink n items session (.past validator sink session (offered n items))
        (.ok (wholeStats n items))
  | stopped {done later : List CanonicalRecord} {record : CanonicalRecord}
      (stops : StopsAt validator sink (offered n items) done record later)
      (noticed : (answerTo validator sink done.length record).failure = none → later = [] →
        (offered n items).length % n = 0) :
      RunEnding validator sink n items session (.past validator sink session (done ++ [record]))
        (.error (answerTo validator sink done.length record).verdict)
  | unnoticed {done : List CanonicalRecord} {record : CanonicalRecord}
      (stops : StopsAt validator sink (offered n items) done record [])
      (taken : (answerTo validator sink done.length record).failure = none)
      (short : (offered n items).length % n ≠ 0) :
      RunEnding validator sink n items session (.past validator sink session (done ++ [record]))
        (.ok (wholeStats n items))

section

variable {validator : Validator} {sink : ResultSink} {n : Nat} {items : List StreamItem}
  {session : RunSession} {records done batch front later : List CanonicalRecord}
  {record : CanonicalRecord} {batches : List (List CanonicalRecord)} {e : ExtractError}

theorem StopsAt.extend {more : List CanonicalRecord} (whole : records ++ more = batch)
    (stops : StopsAt validator sink records done record later) :
    StopsAt validator sink batch done record (later ++ more) where
  split := by rw [← whole, stops.split, List.append_assoc, List.cons_append]
  before := stops.before
  ends := stops.ends

theorem stop?_past (goesOn : GoesOn validator sink (done ++ batch)) :
    (runConsumer validator sink).stop? n (.past validator sink session done) batch = none := by
  have handled := RunState.handle_past session goesOn
  have running := RunState.past_running session goesOn
  refine Consumer.stop?_eq_none_iff.mpr ⟨congrArg Prod.snd handled, fun _ => ?_⟩
  change (RunState.handle validator sink _ batch).1.cancelled = false
  rwa [handled]

/-- A call whose batch holds the record that ends the run ends the stream, or it is not noticed in
it that the sink has cancelled the run. -/
theorem stop?_past_of_stops (n : Nat) (session : RunSession)
    (stops : StopsAt validator sink (done ++ batch) (done ++ front) record later) :
    (∃ e, (runConsumer validator sink).stop? n (.past validator sink session done) batch = some e ∧
      unwrapCancelled e = (answerTo validator sink (done ++ front).length record).verdict ∧
      ((answerTo validator sink (done ++ front).length record).failure = none → later = [] →
        n ≤ batch.length)) ∨
    ((runConsumer validator sink).stop? n (.past validator sink session done) batch = none ∧
      (answerTo validator sink (done ++ front).length record).failure = none ∧ later = [] ∧
      batch.length < n) := by
  have handled := RunState.handle_stop session stops
  have answered :
      ((runConsumer validator sink).handle (.past validator sink session done) batch).2 = _ :=
    congrArg Prod.snd handled
  cases failed : (answerTo validator sink (done ++ front).length record).failure with
  | some failure =>
    rw [failed] at answered
    refine Or.inl ⟨_, Consumer.stop?_of_failed answered, ?_, fun none => by cases none⟩
    rw [SinkAnswer.verdict, failed]
    rfl
  | none =>
    have verdict :
        (answerTo validator sink (done ++ front).length record).verdict = .cancelled := by
      rw [SinkAnswer.verdict, failed]
    rw [failed] at answered
    by_cases last : later = []
    · simp only [last, if_true] at answered
      have cancelled : (runConsumer validator sink).isCancelled ((runConsumer validator sink).handle
          (.past validator sink session done) batch).1 = true := by
        change (RunState.handle validator sink _ batch).1.cancelled = true
        rw [handled]
        have ends := stops.ends
        rw [SinkAnswer.ends, failed] at ends
        exact (RunState.past_cancelled stops.before).trans ends
      by_cases full : n ≤ batch.length
      · exact Or.inl ⟨_, Consumer.stop?_of_cancelled full answered cancelled, verdict.symm,
          fun _ _ => full⟩
      · refine Or.inr ⟨?_, rfl, last, by omega⟩
        exact Consumer.stop?_eq_none_iff.mpr ⟨answered, fun isFull => absurd isFull full⟩
    · simp only [last, if_false] at answered
      exact Or.inl
        ⟨_, Consumer.stop?_of_failed answered, verdict.symm, fun _ none => absurd none last⟩

theorem calm_past (before : GoesOn validator sink done) (full : ∀ block ∈ batches, n ≤ block.length)
    (calm : (runConsumer validator sink).Calm n (.past validator sink session done) batches) :
    GoesOn validator sink (done ++ batches.flatten) ∧
      (runConsumer validator sink).after (.past validator sink session done) batches =
        .past validator sink session (done ++ batches.flatten) := by
  induction batches generalizing done with
  | nil =>
    rw [List.flatten_nil, List.append_nil]
    exact ⟨before, rfl⟩
  | cons batch rest ih =>
    obtain ⟨fullHere, fullLater⟩ := List.forall_mem_cons.mp full
    obtain ⟨calmHere, calmLater⟩ := calm
    have goesOn : GoesOn validator sink (done ++ batch) := by
      rcases goesOn_or_stops before batch with all | ⟨front, record, later, -, stops⟩
      · exact all
      · rcases stop?_past_of_stops n session stops with
          ⟨e, stop, -, -⟩ | ⟨-, -, -, short⟩
        · rw [calmHere] at stop
          cases stop
        · omega
    have handled :
        ((runConsumer validator sink).handle (.past validator sink session done) batch).1 =
          .past validator sink session (done ++ batch) :=
      congrArg Prod.fst (RunState.handle_past session goesOn)
    rw [handled] at calmLater
    obtain ⟨all, state⟩ := ih goesOn fullLater calmLater
    rw [List.append_assoc, ← List.flatten_cons] at all state
    refine ⟨all, ?_⟩
    rw [← state]
    change (runConsumer validator sink).after (((runConsumer validator sink).handle
      (.past validator sink session done) batch).1) rest = _
    rw [handled]

theorem calm_from_start (full : ∀ block ∈ batches, block.length = n)
    (calm : (runConsumer validator sink).Calm n { session } batches) :
    GoesOn validator sink batches.flatten ∧
      (runConsumer validator sink).after { session } batches =
        .past validator sink session batches.flatten := by
  have start : RunState.past validator sink session [] = { session } := RunState.past_nil
  rw [← start] at calm ⊢
  exact calm_past goesOn_nil (fun block mem => Nat.le_of_eq (full block mem).symm) calm

theorem offered_of_faultless (faultless : firstError? items = none) :
    offered n items = leadingRecords items := by
  rw [offered, faultless]

theorem offered_of_fault (fault : firstError? items = some e)
    (full : ∀ block ∈ batches, block.length = n) (short : batch.length < n)
    (records : leadingRecords items = batches.flatten ++ batch) :
    offered n items = batches.flatten := by
  have length := length_flatten_of_full full
  have blocks : (batches.length * n + batch.length) / n = batches.length := by
    rw [Nat.mul_comm, Nat.mul_add_div (by omega), Nat.div_eq_of_lt short, Nat.add_zero]
  have whole : (leadingRecords items).length / n * n = batches.flatten.length := by
    rw [records, List.length_append, length, blocks]
  rw [offered, fault]
  dsimp only
  rw [whole, records, List.take_left]

theorem prefix_offered (handed : batches <+: chunks n (leadingRecords items)) (positive : 0 < n)
    (full : firstError? items ≠ none → ∀ block ∈ batches, block.length = n) :
    batches.flatten <+: offered n items := by
  obtain ⟨others, whole⟩ := handed
  have joined : (chunks n (leadingRecords items)).flatten = leadingRecords items :=
    flatten_chunks positive
  have front : batches.flatten <+: leadingRecords items := by
    rw [← joined, ← whole, List.flatten_append]
    exact List.prefix_append _ _
  unfold offered
  split
  · exact front
  · next e fault =>
    have length := length_flatten_of_full (full (by rw [fault]; simp))
    refine List.prefix_take_iff.mpr ⟨front, ?_⟩
    rw [length]
    refine Nat.mul_le_mul_right n ((Nat.le_div_iff_mul_le positive).mpr ?_)
    rw [← length]
    exact front.length_le

theorem length_leadingRecords_le (items : List StreamItem) :
    (leadingRecords items).length ≤ items.length := by
  rw [leadingRecords, List.length_map]
  fun_induction leadingRows items with
  | case1 row rest ih => simpa using ih
  | case2 => simp

theorem offered_leading : offered n items <+: leadingRecords items := by
  unfold offered
  split
  · exact List.prefix_refl _
  · exact List.take_prefix _ _

/-- Where a call ends a stream, the sink has ended the run. -/
theorem RunEnding.of_stop (positive : 0 < n)
    (before : GoesOn validator sink batches.flatten) (full : ∀ block ∈ batches, block.length = n)
    (handed : batches ++ [batch] <+: chunks n (leadingRecords items))
    (faultless : batch.length < n → firstError? items = none)
    (stop : (runConsumer validator sink).stop? n (.past validator sink session batches.flatten)
      batch = some e) :
    RunEnding validator sink n items session
      ((runConsumer validator sink).handle (.past validator sink session batches.flatten) batch).1
      (.error (unwrapCancelled e)) := by
  have bound : batch.length ≤ n :=
    (length_of_mem_chunks (handed.subset (List.mem_append_right _ List.mem_cons_self))).2
  have all : firstError? items ≠ none → ∀ block ∈ batches ++ [batch], block.length = n := by
    intro fault block mem
    rcases List.mem_append.mp mem with old | new
    · exact full block old
    · rw [List.mem_singleton.mp new]
      by_contra short
      exact fault (faultless (by omega))
  obtain ⟨more, whole⟩ := prefix_offered handed positive all
  rw [List.flatten_append, List.flatten_singleton] at whole
  rcases goesOn_or_stops before batch with goesOn | ⟨front, record, later, -, stops⟩
  · rw [stop?_past goesOn] at stop
    cases stop
  · have state : ((runConsumer validator sink).handle
        (.past validator sink session batches.flatten) batch).1 =
          .past validator sink session (batches.flatten ++ front ++ [record]) :=
      congrArg Prod.fst (RunState.handle_stop session stops)
    rcases stop?_past_of_stops n session stops with
      ⟨e', stop', verdict, noticed⟩ | ⟨goesOn, -⟩
    · rw [stop] at stop'
      cases stop'
      rw [state, verdict]
      refine .stopped (stops.extend whole) fun taken last => ?_
      obtain ⟨none, rfl⟩ := List.append_eq_nil_iff.mp last
      have isFull : batch.length = n := Nat.le_antisymm bound (noticed taken none)
      rw [← whole, List.append_nil, List.length_append, length_flatten_of_full full, isFull,
        ← Nat.succ_mul, Nat.mul_mod_left]
    · rw [stop] at goesOn
      cases goesOn

/-- Where a stream comes to its end, the sink has let the run go on, or has cancelled it at the
very last record, in a batch that is not full. -/
theorem RunEnding.of_end (positive : 0 < n) (faultless : firstError? items = none)
    (calm : (runConsumer validator sink).Calm n { session } (chunks n (leadingRecords items))) :
    RunEnding validator sink n items session
      ((runConsumer validator sink).after { session } (chunks n (leadingRecords items)))
      (.ok (wholeStats n items)) := by
  have whole : (chunks n (leadingRecords items)).flatten = offered n items := by
    rw [offered_of_faultless faultless, flatten_chunks positive]
  rcases List.eq_nil_or_concat (chunks n (leadingRecords items)) with none | ⟨before, last, split⟩
  · rw [none, List.flatten_nil] at whole
    have ending : RunEnding validator sink n items session
        (.past validator sink session (offered n items)) (.ok (wholeStats n items)) :=
      .finished (whole ▸ goesOn_nil) faultless
    rw [← whole] at ending
    rw [none]
    exact ending
  · rw [List.concat_eq_append] at split
    have full : ∀ block ∈ before, block.length = n := full_of_chunks_snoc split
    rw [split, List.flatten_append, List.flatten_singleton] at whole
    rw [split] at calm ⊢
    obtain ⟨calmBefore, calmLast, -⟩ := Consumer.calm_append_iff.mp calm
    obtain ⟨goesOn, state⟩ := calm_from_start full calmBefore
    rw [state] at calmLast
    rw [Consumer.after_snoc, state]
    rcases goesOn_or_stops goesOn last with all | ⟨front, record, later, -, stops⟩
    · have handled : ((runConsumer validator sink).handle
          (.past validator sink session before.flatten) last).1 =
            .past validator sink session (before.flatten ++ last) :=
        congrArg Prod.fst (RunState.handle_past session all)
      rw [handled, whole]
      exact .finished (whole ▸ all) faultless
    · have handled : ((runConsumer validator sink).handle
          (.past validator sink session before.flatten) last).1 =
            .past validator sink session (before.flatten ++ front ++ [record]) :=
        congrArg Prod.fst (RunState.handle_stop session stops)
      rcases stop?_past_of_stops n session stops with
        ⟨e, stop, -⟩ | ⟨-, taken, rfl, short⟩
      · rw [calmLast] at stop
        cases stop
      · rw [handled]
        have lastIn : last ∈ chunks n (leadingRecords items) := by
          rw [split]
          exact List.mem_append_right _ List.mem_cons_self
        have nonempty : 0 < last.length := (length_of_mem_chunks lastIn).1
        rw [← List.append_nil (before.flatten ++ last)] at whole
        refine .unnoticed (stops.extend whole) taken ?_
        rw [List.append_nil] at whole
        rw [← whole, List.length_append, length_flatten_of_full full, Nat.mul_comm,
          Nat.mul_add_mod, Nat.mod_eq_of_lt short]
        omega

theorem StreamRun.Followed.runEnding {run : StreamRun RunState}
    (followed : run.Followed (runConsumer validator sink) n { session } items) (positive : 0 < n) :
    RunEnding validator sink n items session run.progress.state
      (run.outcome.mapError unwrapCancelled) := by
  have upToDate := followed.upToDate
  obtain ⟨batches, deliveries, ending⟩ := followed.ended
  rw [Progress.UpToDate, deliveries, map_batch_stamped] at upToDate
  rw [upToDate]
  generalize run.outcome = outcome at ending
  generalize run.progress.pulled = pulled at ending
  cases ending with
  | beforehand cancelled => cases cancelled
  | stopped calm stop full handed faultless =>
    obtain ⟨goesOn, state⟩ := calm_from_start full calm
    rw [state] at stop
    rw [Consumer.after_snoc, state]
    exact .of_stop positive goesOn full handed faultless stop
  | faulted calm fault full short records =>
    obtain ⟨goesOn, state⟩ := calm_from_start full calm
    rw [← offered_of_fault fault full short records] at goesOn state
    rw [state]
    exact .faulted goesOn fault
  | finished calm faultless handed =>
    subst handed
    rw [length_of_firstError?_eq_none faultless]
    exact .of_end positive faultless calm

theorem drive_followed (validator : Validator) (sink : ResultSink) (batchSize : Nat)
    (state : RunState) (items : List StreamItem) :
    Buffered (batchSize < 2 ^ 57) (fun driven => ∃ run : StreamRun RunState,
        run.Followed (runConsumer validator sink) (max batchSize 1) state items ∧
          driven = ⟨run.progress.state, run.outcome.mapError unwrapCancelled⟩)
      (drive (.ok items) validator sink batchSize state) := by
  have size : max (max batchSize 1) 1 = max batchSize 1 := by omega
  have small : max batchSize 1 < 2 ^ 57 ↔ batchSize < 2 ^ 57 := by omega
  have streamed := streamBatches_followed (runConsumer validator sink) (max batchSize 1) state items
  rw [size] at streamed
  exact (streamed.congr small).map _ fun run followed => ⟨run, followed, rfl⟩

theorem drive_of_le {batchSize : Nat} {state : RunState} (large : 2 ^ 57 ≤ batchSize) :
    drive (.ok items) validator sink batchSize state = .error .capacityOverflow :=
  (drive_followed validator sink batchSize state items).panics (Nat.not_lt_of_le large)

/-- A run that is not cancelled beforehand comes to one of its ends. -/
theorem drive_ended (validator : Validator) (sink : ResultSink) (batchSize : Nat)
    (session : RunSession) (items : List StreamItem) :
    Buffered (batchSize < 2 ^ 57) (fun driven =>
        RunEnding validator sink (max batchSize 1) items session driven.state driven.outcome)
      (drive (.ok items) validator sink batchSize { session }) := by
  have positive : 0 < max batchSize 1 := by omega
  refine (drive_followed validator sink batchSize { session } items).imp ?_
  rintro _ ⟨run, followed, rfl⟩
  exact followed.runEnding positive

theorem drive_cancelled (validator : Validator) (sink : ResultSink) (batchSize : Nat)
    (session : RunSession) (items : List StreamItem) :
    Buffered (batchSize < 2 ^ 57)
      (fun driven => driven = ⟨{ session, cancelled := true }, .error .cancelled⟩)
      (drive (.ok items) validator sink batchSize { session, cancelled := true }) := by
  refine (drive_followed validator sink batchSize { session, cancelled := true } items).imp ?_
  rintro _ ⟨run, followed, rfl⟩
  rw [followed.beforehand rfl]
  rfl

namespace RunEnding

variable {state : RunState} {outcome : Except ExtractError ExtractStats}
  (ending : RunEnding validator sink n items session state outcome)
include ending

theorem goes_on (goesOn : GoesOn validator sink (offered n items)) :
    state = .past validator sink session (offered n items) ∧
      outcome = match firstError? items with
        | some e => .error (unwrapCancelled e)
        | none => .ok (wholeStats n items) := by
  cases ending with
  | faulted _ fault => exact ⟨rfl, by rw [fault]⟩
  | finished _ faultless => exact ⟨rfl, by rw [faultless]⟩
  | stopped stops => exact absurd stops goesOn.not_stopsAt
  | unnoticed stops => exact absurd stops goesOn.not_stopsAt

theorem stops_at (stops : StopsAt validator sink (offered n items) done record later) :
    state = .past validator sink session (done ++ [record]) ∧
      outcome =
        if (answerTo validator sink done.length record).failure = none ∧ later = [] ∧
          (offered n items).length % n ≠ 0
        then .ok (wholeStats n items)
        else .error (answerTo validator sink done.length record).verdict := by
  cases ending with
  | faulted goesOn => exact absurd stops goesOn.not_stopsAt
  | finished goesOn => exact absurd stops goesOn.not_stopsAt
  | stopped there noticed =>
    obtain ⟨rfl, rfl, rfl⟩ := there.unique stops
    refine ⟨rfl, (if_neg ?_).symm⟩
    rintro ⟨taken, last, short⟩
    exact short (noticed taken last)
  | unnoticed there taken short =>
    obtain ⟨rfl, rfl, rfl⟩ := there.unique stops
    exact ⟨rfl, (if_pos ⟨taken, rfl, short⟩).symm⟩

/-- The state tells the records that were processed and nothing of the batches. -/
theorem state_eq : ∃ processed, state = .past validator sink session processed ∧
    ((GoesOn validator sink (offered n items) ∧ processed = offered n items) ∨
      ∃ done record later, StopsAt validator sink (offered n items) done record later ∧
        processed = done ++ [record]) := by
  cases ending with
  | faulted goesOn => exact ⟨_, rfl, Or.inl ⟨goesOn, rfl⟩⟩
  | finished goesOn => exact ⟨_, rfl, Or.inl ⟨goesOn, rfl⟩⟩
  | stopped stops => exact ⟨_, rfl, Or.inr ⟨_, _, _, stops, rfl⟩⟩
  | unnoticed stops => exact ⟨_, rfl, Or.inr ⟨_, _, _, stops, rfl⟩⟩

theorem processed_leading : ∃ processed, state = .past validator sink session processed ∧
    processed <+: leadingRecords items := by
  obtain ⟨processed, rfl, ⟨-, rfl⟩ | ⟨done, record, later, stops, rfl⟩⟩ := ending.state_eq
  · exact ⟨_, rfl, offered_leading⟩
  · refine ⟨_, rfl, List.IsPrefix.trans ⟨later, ?_⟩ (offered_leading (n := n))⟩
    simp [stops.split]

/-- Without an error among the items the size of the batches leaves no trace in the state. -/
theorem state_of_faultless {n' : Nat} {state' : RunState}
    {outcome' : Except ExtractError ExtractStats} (faultless : firstError? items = none)
    (other : RunEnding validator sink n' items session state' outcome') : state' = state := by
  have same : offered n' items = offered n items := by
    rw [offered_of_faultless faultless, offered_of_faultless faultless]
  obtain ⟨processed, rfl, ⟨goesOn, rfl⟩ | ⟨done, record, later, stops, rfl⟩⟩ := ending.state_eq
  · rw [← same] at goesOn ⊢
    exact (other.goes_on goesOn).1
  · rw [← same] at stops
    exact (other.stops_at stops).1

end RunEnding

theorem RunState.past_total {ownerId : Int64} {now : Instant}
    (fits : records.length < UInt64.size) :
    (past validator sink (.empty ownerId now) records).session.totalCount.toNat =
      records.length := by
  have counted := totalCount_foldl (records.mapIdx validator) (.empty ownerId now)
  rw [List.length_mapIdx] at counted
  have zero : (RunSession.empty ownerId now).totalCount = 0 := rfl
  rw [past, counted, zero, UInt64.zero_add, UInt64.toNat_ofNat_of_lt' fits]

end

/-- An interactive run that processed a prefix of the records, each exactly once. -/
structure InteractiveRun.ProcessesPrefix (validator : Validator) (sink : ResultSink) (n : Nat)
    (items : List StreamItem) (ownerId : Int64) (now : Instant) (cancelled : Bool)
    (run : InteractiveRun) : Prop where
  validated : run.state.validated <+: leadingRecords items
  streamed : run.state.streamed = run.state.validated.mapIdx validator
  session : run.state.session =
    run.state.streamed.foldl RunSession.record (.empty ownerId now)
  total : items.length < UInt64.size →
    run.state.session.totalCount.toNat = run.state.validated.length
  beforehand : cancelled = true → run.state.validated = [] ∧ run.outcome = .error .cancelled
  whole : cancelled = false → GoesOn validator sink (offered n items) →
    run.state.validated = offered n items ∧
      run.outcome = match firstError? items with
        | some e => .error (unwrapCancelled e)
        | none => .ok (wholeStats n items)
  failed : cancelled = false → ∀ done record later failure,
    StopsAt validator sink (offered n items) done record later →
    (answerTo validator sink done.length record).failure = some failure →
      run.state.validated = done ++ [record] ∧
        run.outcome = .error (if failure.isCancelled then .cancelled else .consumer failure)
  /-- A cancellation behind the last record of a batch that is not full comes too late. -/
  cancelledThere : cancelled = false → ∀ done record later,
    StopsAt validator sink (offered n items) done record later →
    (answerTo validator sink done.length record).failure = none →
      run.state.validated = done ++ [record] ∧
        run.outcome = if later = [] ∧ (offered n items).length % n ≠ 0
          then .ok (wholeStats n items) else .error .cancelled
  /-- Without an error among the items the size of the batches does not matter. -/
  everySize : firstError? items = none → ∀ size < 2 ^ 57, ∃ other,
    runInteractive (.ok items) validator sink size ownerId now cancelled = .ok other ∧
      other.state = run.state

section

variable {validator : Validator} {sink : ResultSink} {n : Nat} {items : List StreamItem}
  {ownerId : Int64} {now : Instant}

theorem processesPrefix_of_cancelled :
    (⟨{ session := .empty ownerId now, cancelled := true }, .error .cancelled⟩ :
      Driven).interactive.ProcessesPrefix validator sink n items ownerId now true where
  validated := List.nil_prefix
  streamed := rfl
  session := rfl
  total := fun _ => rfl
  beforehand := fun _ => ⟨rfl, rfl⟩
  whole := fun running => by cases running
  failed := fun running => by cases running
  cancelledThere := fun running => by cases running
  everySize := by
    intro _ size small
    obtain ⟨driven, given, rfl⟩ :=
      (drive_cancelled validator sink size (.empty ownerId now) items).holds_iff.mpr small
    exact ⟨_, by rw [runInteractive, given]; rfl, rfl⟩

theorem RunEnding.processesPrefix {driven : Driven}
    (ending : RunEnding validator sink n items (.empty ownerId now) driven.state driven.outcome) :
    driven.interactive.ProcessesPrefix validator sink n items ownerId now false := by
  obtain ⟨processed, state, inRecords⟩ := ending.processed_leading
  have same : driven.interactive.state = .past validator sink (.empty ownerId now) processed :=
    state
  exact {
    validated := by rwa [same]
    streamed := by rw [same]; rfl
    session := by rw [same]; rfl
    total := by
      intro fits
      have rows := length_leadingRecords_le items
      have count : processed.length < UInt64.size := by
        have bound := inRecords.length_le
        omega
      rw [same]
      exact RunState.past_total count
    beforehand := fun cancelled => by cases cancelled
    whole := by
      intro _ goesOn
      obtain ⟨state, outcome⟩ := ending.goes_on goesOn
      exact ⟨congrArg RunState.validated state, outcome⟩
    failed := by
      intro _ done record later failure stops failed
      obtain ⟨state, outcome⟩ := ending.stops_at stops
      refine ⟨congrArg RunState.validated state, outcome.trans ?_⟩
      rw [SinkAnswer.verdict, failed]
      simp
    cancelledThere := by
      intro _ done record later stops taken
      obtain ⟨state, outcome⟩ := ending.stops_at stops
      refine ⟨congrArg RunState.validated state, outcome.trans ?_⟩
      rw [SinkAnswer.verdict, taken]
      simp
    everySize := by
      intro faultless size small
      obtain ⟨other, given, otherEnding⟩ :=
        (drive_ended validator sink size (.empty ownerId now) items).holds_iff.mpr small
      exact ⟨_, by rw [runInteractive, given]; rfl,
        ending.state_of_faultless faultless otherEnding⟩ }

end

/-- With a buffer for a batch an interactive run processes the first records of its source in order,
each exactly once, up to the first at which the sink fails or cancels. -/
theorem runInteractive_processesPrefix_iff (validator : Validator) (sink : ResultSink)
    (batchSize : Nat) (items : List StreamItem) (ownerId : Int64) (now : Instant)
    (cancelled : Bool) :
    Buffered (batchSize < 2 ^ 57) (fun run =>
        run.ProcessesPrefix validator sink (max batchSize 1) items ownerId now cancelled)
      (runInteractive (.ok items) validator sink batchSize ownerId now cancelled) := by
  cases cancelled with
  | true =>
    refine (drive_cancelled validator sink batchSize (.empty ownerId now) items).map _ ?_
    rintro _ rfl
    exact processesPrefix_of_cancelled
  | false =>
    exact (drive_ended validator sink batchSize (.empty ownerId now) items).map _
      fun driven ending => ending.processesPrefix

/-- One row, and a sink that takes it. In batches of one it is processed. -/
theorem row_unprocessed :
    (∃ run, runInteractive (.ok [.ok ⟨[]⟩]) (fun _ _ => {}) openSink 1 5 .epoch false = .ok run ∧
      run.state.validated.length = 1) ∧
    ¬ ∃ run, runInteractive (.ok [.ok ⟨[]⟩]) (fun _ _ => {}) openSink 9223372036854775807 5 .epoch
        false = .ok run ∧ run.state.validated.length = 1 := by
  refine ⟨⟨_, rfl, rfl⟩, ?_⟩
  rintro ⟨run, given, -⟩
  rw [runInteractive, drive_of_le (by decide)] at given
  cases given

/-- The sink cancels at the last of three records; it fills a batch of three but none of two. -/
example :
    let outcome := fun size => (runInteractive (.ok (.replicate 3 (.ok ⟨[]⟩))) (fun _ _ => {})
      (fun k _ => { cancels := k == 2 }) size 1 .epoch false).map (·.outcome)
    outcome 3 = .ok (.error .cancelled) ∧ outcome 2 = .ok (.ok ⟨3, 2⟩) := by
  constructor <;> rfl

end Geoflow
