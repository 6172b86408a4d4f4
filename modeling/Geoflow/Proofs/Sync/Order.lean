import Geoflow.Proofs.Store.Points
import Geoflow.Proofs.Sync.Stages
import Geoflow.Store.Services

set_option autoImplicit false

namespace Geoflow.SyncService

/-- The name of a batch: its own, or one of the sync and the time where it has none. -/
def batchName (sync : ExternalSync) (now : Instant) (fetched : CoordinatePayload) : String :=
  if fetched.batchId = "" then
    "ERP-SYNC-" ++ String.ofList (Numeral.ofInt sync.id.toInt) ++ "-"
      ++ String.ofList (Numeral.ofInt now.seconds)
  else fetched.batchId

/-- There is no value for the authorization header: it is not set up, does not open, or is empty. -/
def LacksAuth (aesKey : String) (sync : ExternalSync) : Prop :=
  sync.authHeaderKey = "" ∨ sync.authHeaderValue = "" ∨
    (∃ fault, Secret.decrypt sync.authHeaderValue aesKey = .error fault) ∨
    Secret.decrypt sync.authHeaderValue aesKey = .ok ""

def withoutAuth (sync : ExternalSync) : ExternalSync :=
  { sync with authHeaderKey := "", authHeaderValue := "" }

/-- A run that does each of its steps once and in order, and nothing behind a failure. -/
structure RunsInOrder (aesKey : String) (transport : Http.Transport) (backend : SyncBackend)
    (clock : Clock) (sync : ExternalSync) (run : SyncRun) : Prop where
  handover : ∀ fetched, Delivers aesKey transport sync fetched →
    run.handovers = [⟨sync.ownerId, ⟨batchName sync clock.naming fetched, fetched.points⟩,
      backend.ingest sync.ownerId ⟨batchName sync clock.naming fetched, fetched.points⟩⟩]
  noHandover : (∀ fetched, ¬ Delivers aesKey transport sync fetched) → run.handovers = []
  note : ∀ receipt, run.result = .ok receipt →
    run.notes = [(sync.id, backend.recordTime sync.id clock.noting)]
  noNote : ∀ e, run.result = .error e → run.notes = []
  /-- The time is noted right after a hand-over that succeeded, and last of all. -/
  noteAfter : ∀ id time answer, .noted id time answer ∈ run.steps →
    ∃ before handover receipt, handover.answer = .ok receipt ∧
      run.steps = before ++ [.handedIn handover, .noted id time answer]
  succeeds : ∀ receipt, run.result = .ok receipt ↔
    ∃ fetched, Delivers aesKey transport sync fetched ∧
      backend.ingest sync.ownerId ⟨batchName sync clock.naming fetched, fetched.points⟩ =
        .ok receipt
  fails : ∀ e, run.result = .error e ↔ FailsWith aesKey transport sync backend clock e
  /-- Whether the time could be noted does not matter. -/
  noteIgnored : ∀ recordTime,
    (execute aesKey transport { backend with recordTime } clock sync).result = run.result
  noAuth : LacksAuth aesKey sync →
    run = execute aesKey transport backend clock (withoutAuth sync) ∧
      ∀ request ∈ run.requests, request.headers = [⟨"accept", "application/json"⟩]

variable {aesKey : String} {transport : Http.Transport} {backend : SyncBackend} {clock : Clock}
  {sync : ExternalSync} {request : Http.Request} {fetched : CoordinatePayload} {run : SyncRun}

theorem named_eq (sync : ExternalSync) (now : Instant) (fetched : CoordinatePayload) :
    named sync now fetched = ⟨batchName sync now fetched, fetched.points⟩ := by
  unfold named batchName generatedBatchId
  simp only [String.isEmpty_iff]
  split <;> rfl

theorem authValue_of_lacksAuth (lacks : LacksAuth aesKey sync) : authValue aesKey sync = none := by
  unfold authValue
  simp only [String.isEmpty_iff]
  split
  · rfl
  · rename_i setUp
    obtain key | value | ⟨fault, failed⟩ | opened := lacks
    · exact absurd (Or.inl key) setUp
    · exact absurd (Or.inr value) setUp
    · rw [failed]
    · rw [opened]
      rfl

theorem buildRequest_withoutAuth (lacks : LacksAuth aesKey sync) :
    buildRequest aesKey sync = buildRequest aesKey (withoutAuth sync) := by
  have without : authValue aesKey (withoutAuth sync) = none := authValue_of_lacksAuth (Or.inl rfl)
  unfold buildRequest
  rw [authValue_of_lacksAuth lacks, without]
  rfl

theorem execute_withoutAuth (lacks : LacksAuth aesKey sync) :
    execute aesKey transport backend clock sync =
      execute aesKey transport backend clock (withoutAuth sync) := by
  unfold execute perform
  rw [buildRequest_withoutAuth lacks]
  rfl

theorem headers_of_buildRequest {method url : String} {headers : List (Option Http.Header)}
    {body : Option Json} (built : Http.buildRequest method url headers body = .ok request) :
    headers.mapM id = some request.headers := by
  unfold Http.buildRequest at built
  split at built
  · cases built
  · split at built
    · cases built
    · split at built
      · cases built
      · split at built
        · rename_i whole _
          cases built
          exact whole
        · cases built

theorem headers_of_lacksAuth (lacks : LacksAuth aesKey sync)
    (built : buildRequest aesKey sync = .ok request) :
    request.headers = [⟨"accept", "application/json"⟩] := by
  have accept : Http.Header.build? "accept" "application/json" =
      some ⟨"accept", "application/json"⟩ := by decide +kernel
  unfold buildRequest at built
  split at built
  · cases built
  · rename_i method _
    simp only [authValue_of_lacksAuth lacks, accept, Option.map_none, Option.toList_none] at built
    cases whole : Http.buildRequest method sync.url [some ⟨"accept", "application/json"⟩] none with
    | error fault =>
      rw [whole] at built
      cases built
    | ok own =>
      rw [whole] at built
      cases built
      have headers := headers_of_buildRequest whole
      exact (Option.some.inj headers).symm

/-- What was delivered is what was fetched, so there is one payload at most. -/
theorem Delivers.eq_of_fetch {other : CoordinatePayload}
    (delivered : Delivers aesKey transport sync fetched)
    (built : buildRequest aesKey sync = .ok request) (got : fetch transport request = .ok other) :
    fetched = other := by
  obtain ⟨own, builtOwn, gotOwn⟩ := delivers_iff.mp delivered
  cases built.symm.trans builtOwn
  exact Except.ok.inj (gotOwn.symm.trans got)

theorem not_delivers_of_unbuilt {fault : SyncRequestFault}
    (failed : buildRequest aesKey sync = .error fault) :
    ¬ Delivers aesKey transport sync fetched := by
  intro delivered
  obtain ⟨request, built, -⟩ := delivers_iff.mp delivered
  cases failed.symm.trans built

theorem not_delivers_of_unfetched {e : SyncError} (built : buildRequest aesKey sync = .ok request)
    (failed : fetch transport request = .error e) : ¬ Delivers aesKey transport sync fetched := by
  intro delivered
  obtain ⟨own, builtOwn, got⟩ := delivers_iff.mp delivered
  cases built.symm.trans builtOwn
  cases failed.symm.trans got

theorem Course.handovers_of_delivers (course : Course aesKey transport backend clock sync run)
    (delivered : Delivers aesKey transport sync fetched) :
    run.handovers = [⟨sync.ownerId, ⟨batchName sync clock.naming fetched, fetched.points⟩,
      backend.ingest sync.ownerId ⟨batchName sync clock.naming fetched, fetched.points⟩⟩] := by
  cases course with
  | unbuilt failed => exact absurd delivered (not_delivers_of_unbuilt failed)
  | unfetched built failed => exact absurd delivered (not_delivers_of_unfetched built failed)
  | refused built got failed =>
    cases delivered.eq_of_fetch built got
    rw [← named_eq, failed]
    rfl
  | accepted built got taken =>
    cases delivered.eq_of_fetch built got
    rw [← named_eq, taken]
    rfl

theorem Course.handovers_of_not_delivers (course : Course aesKey transport backend clock sync run)
    (missing : ∀ fetched, ¬ Delivers aesKey transport sync fetched) : run.handovers = [] := by
  cases course with
  | unbuilt | unfetched => rfl
  | refused built got _ | accepted built got _ =>
    exact absurd (delivers_iff.mpr ⟨_, built, got⟩) (missing _)

theorem Course.result_eq_ok_iff (course : Course aesKey transport backend clock sync run)
    (receipt : IngestReceipt) : run.result = .ok receipt ↔
      ∃ fetched, Delivers aesKey transport sync fetched ∧
        backend.ingest sync.ownerId (named sync clock.naming fetched) = .ok receipt := by
  cases course with
  | unbuilt failed =>
    refine ⟨nofun, ?_⟩
    rintro ⟨fetched, delivered, -⟩
    exact absurd delivered (not_delivers_of_unbuilt failed)
  | unfetched built failed =>
    refine ⟨nofun, ?_⟩
    rintro ⟨fetched, delivered, -⟩
    exact absurd delivered (not_delivers_of_unfetched built failed)
  | refused built got failed =>
    refine ⟨nofun, ?_⟩
    rintro ⟨fetched, delivered, taken⟩
    cases delivered.eq_of_fetch built got
    cases failed.symm.trans taken
  | @accepted request fetched own built got taken =>
    constructor
    · intro same
      cases same
      exact ⟨fetched, delivers_iff.mpr ⟨request, built, got⟩, taken⟩
    · rintro ⟨fetched, delivered, takenOther⟩
      cases delivered.eq_of_fetch built got
      cases taken.symm.trans takenOther
      rfl

theorem Course.result_eq_error_iff (course : Course aesKey transport backend clock sync run)
    (e : SyncError) :
    run.result = .error e ↔ FailsWith aesKey transport sync backend clock e := by
  rw [failsWith_iff]
  constructor
  · intro failure
    cases course with
    | unbuilt failed =>
      cases failure
      exact Or.inl ⟨_, failed, rfl⟩
    | unfetched built failed =>
      cases failure
      exact Or.inr (Or.inl ⟨_, built, failed⟩)
    | refused built got failed =>
      cases failure
      exact Or.inr (Or.inr ⟨_, _, _, built, got, failed, rfl⟩)
    | accepted => cases failure
  · rintro (⟨fault, failed, rfl⟩ | ⟨request, built, failed⟩ |
      ⟨request, fetched, reason, built, got, failed, rfl⟩)
    · rw [course.eq_execute, execute_of_unbuilt failed]
    · rw [course.eq_execute, execute_of_unfetched built failed]
    · rw [course.eq_execute, execute_of_refused built got failed]

theorem Course.notes_of_ok (course : Course aesKey transport backend clock sync run)
    {receipt : IngestReceipt} (success : run.result = .ok receipt) :
    run.notes = [(sync.id, backend.recordTime sync.id clock.noting)] := by
  cases course with
  | unbuilt | unfetched | refused => cases success
  | accepted => rfl

theorem Course.notes_of_error (course : Course aesKey transport backend clock sync run)
    {e : SyncError} (failure : run.result = .error e) : run.notes = [] := by
  cases course with
  | unbuilt | unfetched | refused => rfl
  | accepted => cases failure

theorem Course.note_after (course : Course aesKey transport backend clock sync run) {id : Int64}
    {time : Instant} {answer : Except String Unit} (mem : .noted id time answer ∈ run.steps) :
    ∃ before handover receipt, handover.answer = .ok receipt ∧
      run.steps = before ++ [.handedIn handover, .noted id time answer] := by
  cases course with
  | unbuilt | unfetched | refused => simp at mem
  | @accepted request fetched receipt built got taken =>
    simp only [List.mem_cons, reduceCtorEq, List.not_mem_nil, false_or, or_false,
      SyncStep.noted.injEq] at mem
    obtain ⟨rfl, rfl, rfl⟩ := mem
    exact ⟨[.sent request], _, receipt, rfl, rfl⟩

theorem Course.result_of_recordTime (course : Course aesKey transport backend clock sync run)
    (recordTime : Int64 → Instant → Except String Unit) :
    (execute aesKey transport { backend with recordTime } clock sync).result = run.result := by
  let other : SyncBackend := { backend with recordTime }
  cases course with
  | unbuilt failed => rw [execute_of_unbuilt failed]
  | unfetched built failed => rw [execute_of_unfetched built failed]
  | refused built got failed =>
    have refusedOther : other.ingest sync.ownerId (named sync clock.naming _) = .error _ := failed
    rw [execute_of_refused built got refusedOther]
  | accepted built got taken =>
    have takenOther : other.ingest sync.ownerId (named sync clock.naming _) = .ok _ := taken
    rw [execute_of_accepted built got takenOther]

theorem Course.built_of_mem_requests (course : Course aesKey transport backend clock sync run)
    (mem : request ∈ run.requests) : buildRequest aesKey sync = .ok request := by
  cases course with
  | unbuilt => cases mem
  | unfetched built | refused built | accepted built =>
    cases List.mem_singleton.mp mem
    exact built

theorem Course.runsInOrder (course : Course aesKey transport backend clock sync run) :
    RunsInOrder aesKey transport backend clock sync run where
  handover _ delivered := course.handovers_of_delivers delivered
  noHandover := course.handovers_of_not_delivers
  note _ success := course.notes_of_ok success
  noNote _ failure := course.notes_of_error failure
  noteAfter _ _ _ mem := course.note_after mem
  succeeds receipt := by simpa only [named_eq] using course.result_eq_ok_iff receipt
  fails := course.result_eq_error_iff
  noteIgnored := course.result_of_recordTime
  noAuth lacks := ⟨course.eq_execute.trans (execute_withoutAuth lacks),
    fun _ mem => headers_of_lacksAuth lacks (course.built_of_mem_requests mem)⟩

/-- What a sync leaves in a store that serves it: nothing if it fails, or else its points with the
time behind them. -/
structure LeavesInStore (aesKey : String) (transport : Http.Transport) (clock : Clock)
    (sync : ExternalSync) (s : Store) (run : SyncRun) : Prop where
  untouched : ∀ e, run.result = .error e → s.afterSync run = s
  written : ∀ receipt, run.result = .ok receipt →
    ∃ fetched stored count, Delivers aesKey transport sync fetched ∧
      s.insertPoints sync.ownerId ⟨batchName sync clock.naming fetched, fetched.points⟩ =
        (stored, .ok count) ∧
      receipt = ⟨batchName sync clock.naming fetched, UInt64.ofNat count⟩ ∧
      s.afterSync run = (stored.updateLastSync sync.id clock.noting).1

theorem ingest_of_error {s : Store} {ownerId : Int64} {payload : CoordinatePayload}
    {reason : String} (refused : s.syncBackend.ingest ownerId payload = .error reason) :
    (s.ingest ownerId payload).1 = s := by
  cases answer : s.insertPoints ownerId payload with
  | mk after outcome =>
    cases outcome with
    | ok count =>
      simp only [Store.syncBackend, Store.ingest, answer] at refused
      cases refused
    | error e =>
      simp only [Store.ingest, answer]
      exact Store.insertPoints_of_error answer

theorem ingest_of_ok {s : Store} {ownerId : Int64} {payload : CoordinatePayload}
    {receipt : IngestReceipt} (taken : s.syncBackend.ingest ownerId payload = .ok receipt) :
    ∃ after count, s.insertPoints ownerId payload = (after, .ok count) ∧
      receipt = ⟨payload.batchId, UInt64.ofNat count⟩ ∧ (s.ingest ownerId payload).1 = after := by
  cases answer : s.insertPoints ownerId payload with
  | mk after outcome =>
    cases outcome with
    | ok count =>
      simp only [Store.syncBackend, Store.ingest, answer] at taken
      cases taken
      exact ⟨after, count, rfl, rfl, by simp only [Store.ingest, answer]⟩
    | error e =>
      simp only [Store.syncBackend, Store.ingest, answer] at taken
      cases taken

theorem Course.leavesInStore {s : Store}
    (course : Course aesKey transport s.syncBackend clock sync run) :
    LeavesInStore aesKey transport clock sync s run where
  untouched e failure := by
    cases course with
    | unbuilt | unfetched => rfl
    | refused built got failed => exact ingest_of_error failed
    | accepted => cases failure
  written receipt success := by
    cases course with
    | unbuilt | unfetched | refused => cases success
    | @accepted request fetched own built got taken =>
      cases success
      obtain ⟨after, count, stored, same, left⟩ := ingest_of_ok taken
      rw [named_eq] at stored same
      refine ⟨fetched, after, count, delivers_iff.mpr ⟨request, built, got⟩, stored, same, ?_⟩
      rw [← left]
      rfl

/-- A sync runs in order, whatever its surroundings answer; a store that serves it is written if it
succeeds, and stays as it was if it fails. -/
theorem execute_runsInOrder (aesKey : String) (transport : Http.Transport) (clock : Clock)
    (sync : ExternalSync) :
    (∀ backend, RunsInOrder aesKey transport backend clock sync
      (execute aesKey transport backend clock sync)) ∧
    ∀ s : Store, LeavesInStore aesKey transport clock sync s
      (execute aesKey transport s.syncBackend clock sync) :=
  ⟨fun backend => (execute_course aesKey transport backend clock sync).runsInOrder,
    fun s => (execute_course aesKey transport s.syncBackend clock sync).leavesInStore⟩

/-- A sync of a system that answers with one point and no name for the batch. -/
def polledSync : ExternalSync := ⟨4, 1, "erp", "http://erp/", "get", "", "", "0 0 * * * *", none⟩

def onePoint : Http.Transport := fun _ =>
  .ok ⟨200, some (Utf8.encode
    "\x7b\"points\":[\x7b\"latitude\":1.5,\"longitude\":-2\x7d]\x7d".toList)⟩

/-- Takes all points and loses all times. -/
def forgetfulBackend : SyncBackend where
  find _ := .ok (some polledSync)
  ingest _ payload := .ok ⟨payload.batchId, .ofNat payload.points.length⟩
  recordTime _ _ := .error "database is locked"

theorem delivers_onePoint : ∃ fetched, Delivers "" onePoint polledSync fetched ∧
    fetched.batchId = "" ∧ fetched.points.length = 1 := by
  have got : (match buildRequest "" polledSync with
      | .error _ => none
      | .ok request => (fetch onePoint request).toOption.map fun fetched =>
        (fetched.batchId, fetched.points.length)) = some ("", 1) := by
    decide +kernel
  split at got
  · cases got
  · rename_i request built
    obtain ⟨fetched, answered, same⟩ := Option.map_eq_some_iff.mp got
    obtain ⟨name, points⟩ := Prod.mk.inj same
    cases fetchedHere : fetch onePoint request with
    | error e =>
      rw [fetchedHere] at answered
      cases answered
    | ok own =>
      rw [fetchedHere] at answered
      cases answered
      exact ⟨fetched, delivers_iff.mpr ⟨request, built, fetchedHere⟩, name, points⟩

/-- The batch is named by one reading of the clock, and the time of the other one is lost. -/
theorem execute_runsInOrder_delivering : ∃ fetched,
    Delivers "" onePoint polledSync fetched ∧ LacksAuth "" polledSync ∧
      (execute "" onePoint forgetfulBackend ⟨⟨60, 0⟩, ⟨61, 0⟩⟩ polledSync).handovers =
        [⟨1, ⟨"ERP-SYNC-4-60", fetched.points⟩, .ok ⟨"ERP-SYNC-4-60", 1⟩⟩] ∧
      (execute "" onePoint forgetfulBackend ⟨⟨60, 0⟩, ⟨61, 0⟩⟩ polledSync).notes =
        [(4, .error "database is locked")] ∧
      (execute "" onePoint forgetfulBackend ⟨⟨60, 0⟩, ⟨61, 0⟩⟩ polledSync).result =
        .ok ⟨"ERP-SYNC-4-60", 1⟩ := by
  obtain ⟨fetched, delivered, unnamed, single⟩ := delivers_onePoint
  have inOrder := (execute_runsInOrder "" onePoint ⟨⟨60, 0⟩, ⟨61, 0⟩⟩ polledSync).1 forgetfulBackend
  have name : batchName polledSync ⟨60, 0⟩ fetched = "ERP-SYNC-4-60" := by
    rw [batchName, if_pos unnamed]
    decide +kernel
  have taken : forgetfulBackend.ingest 1 ⟨"ERP-SYNC-4-60", fetched.points⟩ =
      .ok ⟨"ERP-SYNC-4-60", 1⟩ := by
    change Except.ok (IngestReceipt.mk "ERP-SYNC-4-60" (.ofNat fetched.points.length)) = _
    rw [single]
    rfl
  have handover := inOrder.handover fetched delivered
  have result := (inOrder.succeeds ⟨"ERP-SYNC-4-60", 1⟩).mpr
    ⟨fetched, delivered, by rw [name]; exact taken⟩
  refine ⟨fetched, delivered, Or.inl rfl, ?_, inOrder.note _ result, result⟩
  rw [handover, name]
  exact congrArg (fun answer => [Handover.mk 1 _ answer]) taken

end Geoflow.SyncService
