import Geoflow.Proofs.Http.Response
import Geoflow.Proofs.Outcome
import Geoflow.Sync.Service

set_option autoImplicit false

namespace Geoflow.SyncService

open Http.Response (isSuccess_iff octets_of_some octets_of_none)

section

variable (aesKey : String) (transport : Http.Transport) (sync : ExternalSync)

/-- The system at the other end answers the request of a sync. -/
def Answers (response : Http.Response) : Prop :=
  ∃ request, buildRequest aesKey sync = .ok request ∧ Http.send transport request = .ok response

/-- The answer is a payload with points: a success, with a body that can be read as one. -/
def Delivers (fetched : CoordinatePayload) : Prop :=
  ∃ response octets, Answers aesKey transport sync response ∧
    (200 ≤ response.status ∧ response.status < 300) ∧ response.body = some octets ∧
    readText CoordinatePayload.read (.ofOctets octets) = .ok fetched ∧ fetched.points ≠ []

/-- The error of the first stage that fails. -/
inductive FailsWith (backend : SyncBackend) (clock : Clock) : SyncError → Prop
  | unbuilt {fault : SyncRequestFault} (failed : buildRequest aesKey sync = .error fault) :
    FailsWith backend clock (.request fault)
  | unsent {request : Http.Request} {fault : Http.Fault}
    (built : buildRequest aesKey sync = .ok request)
    (failed : Http.send transport request = .error fault) :
    FailsWith backend clock (.request (.http fault))
  | status {response : Http.Response} (answered : Answers aesKey transport sync response)
    (failed : ¬ (200 ≤ response.status ∧ response.status < 300)) :
    FailsWith backend clock (.status response.status)
  | cut {response : Http.Response} (answered : Answers aesKey transport sync response)
    (success : 200 ≤ response.status ∧ response.status < 300) (failed : response.body = none) :
    FailsWith backend clock (.request (.body .decoding))
  | unreadable {response : Http.Response} {octets : List UInt8} {e : ReadError}
    (answered : Answers aesKey transport sync response)
    (success : 200 ≤ response.status ∧ response.status < 300) (whole : response.body = some octets)
    (failed : readText CoordinatePayload.read (.ofOctets octets) = .error e) :
    FailsWith backend clock (.decode e)
  | empty {response : Http.Response} {octets : List UInt8} {fetched : CoordinatePayload}
    (answered : Answers aesKey transport sync response)
    (success : 200 ≤ response.status ∧ response.status < 300) (whole : response.body = some octets)
    (read : readText CoordinatePayload.read (.ofOctets octets) = .ok fetched)
    (failed : fetched.points = []) :
    FailsWith backend clock (.rejected .noPoints)
  | refused {fetched : CoordinatePayload} {reason : String}
    (delivered : Delivers aesKey transport sync fetched)
    (failed : backend.ingest sync.ownerId (named sync clock.naming fetched) = .error reason) :
    FailsWith backend clock (.rejected (.refused sync.name reason))

end

variable {aesKey : String} {transport : Http.Transport} {backend : SyncBackend} {clock : Clock}
  {sync : ExternalSync} {request : Http.Request} {response : Http.Response} {octets : List UInt8}
  {fetched : CoordinatePayload} {receipt : IngestReceipt} {reason : String} {e : SyncError}

theorem fetch_of_send (sent : Http.send transport request = .ok response) :
    fetch transport request = readResponse response := by
  rw [fetch, sent]
  rfl

theorem readResponse_of_status (failed : ¬ (200 ≤ response.status ∧ response.status < 300)) :
    readResponse response = .error (.status response.status) := by
  have unsuccessful : response.isSuccess = false :=
    Bool.eq_false_iff.mpr fun success => failed (isSuccess_iff.mp success)
  rw [readResponse, unsuccessful]
  rfl

theorem readResponse_of_cut (success : 200 ≤ response.status ∧ response.status < 300)
    (cut : response.body = none) : readResponse response = .error (.request (.body .decoding)) := by
  rw [readResponse, isSuccess_iff.mpr success, octets_of_none cut]
  rfl

theorem readResponse_of_unreadable {fault : ReadError}
    (success : 200 ≤ response.status ∧ response.status < 300) (whole : response.body = some octets)
    (failed : readText CoordinatePayload.read (.ofOctets octets) = .error fault) :
    readResponse response = .error (.decode fault) := by
  rw [readResponse, isSuccess_iff.mpr success, octets_of_some whole]
  simp only [mapError_ok, mapError_error, bind, Except.bind, failed]
  rfl

theorem readResponse_of_read (success : 200 ≤ response.status ∧ response.status < 300)
    (whole : response.body = some octets)
    (read : readText CoordinatePayload.read (.ofOctets octets) = .ok fetched) :
    readResponse response =
      if fetched.points = [] then .error (.rejected .noPoints) else .ok fetched := by
  rw [readResponse, isSuccess_iff.mpr success, octets_of_some whole]
  simp only [mapError_ok, bind, Except.bind, read]
  cases fetched.points <;> rfl

/-- What is fetched was delivered, and a failure to fetch is that of a stage. -/
theorem fetch_cases (transport : Http.Transport) (built : buildRequest aesKey sync = .ok request) :
    (∃ fetched, fetch transport request = .ok fetched ∧ Delivers aesKey transport sync fetched) ∨
      ∃ e, fetch transport request = .error e ∧
        ∀ backend clock, FailsWith aesKey transport sync backend clock e := by
  cases sent : Http.send transport request with
  | error fault =>
    refine Or.inr ⟨.request (.http fault), ?_, fun _ _ => .unsent built sent⟩
    rw [fetch, sent]
    rfl
  | ok response =>
    have answered : Answers aesKey transport sync response := ⟨request, built, sent⟩
    rw [fetch_of_send sent]
    by_cases success : 200 ≤ response.status ∧ response.status < 300
    · cases body : response.body with
      | none =>
        exact Or.inr ⟨_, readResponse_of_cut success body, fun _ _ => .cut answered success body⟩
      | some octets =>
        cases read : readText CoordinatePayload.read (.ofOctets octets) with
        | error fault =>
          exact Or.inr ⟨_, readResponse_of_unreadable success body read,
            fun _ _ => .unreadable answered success body read⟩
        | ok fetched =>
          rw [readResponse_of_read success body read]
          by_cases empty : fetched.points = []
          · exact Or.inr ⟨_, if_pos empty, fun _ _ => .empty answered success body read empty⟩
          · exact Or.inl
              ⟨fetched, if_neg empty, response, octets, answered, success, body, read, empty⟩
    · exact Or.inr ⟨_, readResponse_of_status success, fun _ _ => .status answered success⟩

theorem delivers_iff : Delivers aesKey transport sync fetched ↔
    ∃ request, buildRequest aesKey sync = .ok request ∧ fetch transport request = .ok fetched := by
  constructor
  · rintro ⟨response, octets, ⟨request, built, sent⟩, success, whole, read, points⟩
    refine ⟨request, built, ?_⟩
    rw [fetch_of_send sent, readResponse_of_read success whole read, if_neg points]
  · rintro ⟨request, built, got⟩
    obtain ⟨other, gotOther, delivered⟩ | ⟨e, failed, -⟩ := fetch_cases transport built
    · cases got.symm.trans gotOther
      exact delivered
    · cases got.symm.trans failed

/-- A sync fails with the error of its request, of its fetching or of its hand-over. -/
theorem failsWith_iff : FailsWith aesKey transport sync backend clock e ↔
    (∃ fault, buildRequest aesKey sync = .error fault ∧ e = .request fault) ∨
      (∃ request, buildRequest aesKey sync = .ok request ∧ fetch transport request = .error e) ∨
      ∃ request fetched reason, buildRequest aesKey sync = .ok request ∧
        fetch transport request = .ok fetched ∧
        backend.ingest sync.ownerId (named sync clock.naming fetched) = .error reason ∧
        e = .rejected (.refused sync.name reason) := by
  constructor
  · intro fails
    cases fails with
    | unbuilt failed => exact Or.inl ⟨_, failed, rfl⟩
    | @unsent request fault built failed =>
      refine Or.inr (Or.inl ⟨request, built, ?_⟩)
      rw [fetch, failed]
      rfl
    | status answered failed =>
      obtain ⟨request, built, sent⟩ := answered
      exact Or.inr (Or.inl
        ⟨request, built, (fetch_of_send sent).trans (readResponse_of_status failed)⟩)
    | cut answered success failed =>
      obtain ⟨request, built, sent⟩ := answered
      exact Or.inr (Or.inl
        ⟨request, built, (fetch_of_send sent).trans (readResponse_of_cut success failed)⟩)
    | unreadable answered success whole failed =>
      obtain ⟨request, built, sent⟩ := answered
      exact Or.inr (Or.inl
        ⟨request, built,
          (fetch_of_send sent).trans (readResponse_of_unreadable success whole failed)⟩)
    | empty answered success whole read failed =>
      obtain ⟨request, built, sent⟩ := answered
      refine Or.inr (Or.inl ⟨request, built, (fetch_of_send sent).trans ?_⟩)
      rw [readResponse_of_read success whole read, if_pos failed]
    | refused delivered failed =>
      obtain ⟨request, built, got⟩ := delivers_iff.mp delivered
      exact Or.inr (Or.inr ⟨request, _, _, built, got, failed, rfl⟩)
  · rintro (⟨fault, failed, rfl⟩ | ⟨request, built, failed⟩ |
      ⟨request, fetched, reason, built, got, failed, rfl⟩)
    · exact .unbuilt failed
    · obtain ⟨fetched, got, -⟩ | ⟨own, failedOwn, fails⟩ := fetch_cases transport built
      · cases failed.symm.trans got
      · cases failed.symm.trans failedOwn
        exact fails backend clock
    · exact .refused (delivers_iff.mpr ⟨request, built, got⟩) failed

section Parts

variable {α β : Type} {step : SyncStep} {steps : List SyncStep}

theorem run_bind_ok (a : α) (next : α → SyncM β) (steps : List SyncStep) :
    ((liftM (Except.ok a : Except SyncError α) : SyncM α) >>= next).run.run steps =
      (next a).run.run steps := rfl

theorem run_bind_error (e : SyncError) (next : α → SyncM β) (steps : List SyncStep) :
    ((liftM (Except.error e : Except SyncError α) : SyncM α) >>= next).run.run steps =
      (.error e, steps) := rfl

theorem run_add_bind (step : SyncStep) (next : Unit → SyncM β) (steps : List SyncStep) :
    (SyncM.add step >>= next).run.run steps = (next ()).run.run (steps ++ [step]) := rfl

end Parts

theorem execute_of_unbuilt {fault : SyncRequestFault}
    (failed : buildRequest aesKey sync = .error fault) :
    execute aesKey transport backend clock sync = ⟨[], .error (.request fault)⟩ := by
  simp only [execute, perform, failed, mapError_error, run_bind_error]

theorem execute_of_unfetched (built : buildRequest aesKey sync = .ok request)
    (failed : fetch transport request = .error e) :
    execute aesKey transport backend clock sync = ⟨[.sent request], .error e⟩ := by
  simp only [execute, perform, built, failed, mapError_ok, run_bind_ok, run_add_bind,
    run_bind_error, List.nil_append]

theorem execute_of_refused (built : buildRequest aesKey sync = .ok request)
    (got : fetch transport request = .ok fetched)
    (refused : backend.ingest sync.ownerId (named sync clock.naming fetched) = .error reason) :
    execute aesKey transport backend clock sync =
      ⟨[.sent request, .handedIn ⟨sync.ownerId, named sync clock.naming fetched, .error reason⟩],
        .error (.rejected (.refused sync.name reason))⟩ := by
  simp only [execute, perform, built, got, refused, mapError_ok, mapError_error, run_bind_ok,
    run_add_bind, run_bind_error, List.nil_append, List.cons_append]

theorem execute_of_accepted (built : buildRequest aesKey sync = .ok request)
    (got : fetch transport request = .ok fetched)
    (accepted : backend.ingest sync.ownerId (named sync clock.naming fetched) = .ok receipt) :
    execute aesKey transport backend clock sync =
      ⟨[.sent request, .handedIn ⟨sync.ownerId, named sync clock.naming fetched, .ok receipt⟩,
        .noted sync.id clock.noting (backend.recordTime sync.id clock.noting)], .ok receipt⟩ := by
  simp only [execute, perform, built, got, accepted, mapError_ok, run_bind_ok, run_add_bind,
    List.nil_append, List.cons_append]
  rfl

variable (aesKey transport backend clock sync)

/-- The run of a sync by where it ends. -/
inductive Course : SyncRun → Prop
  | unbuilt {fault : SyncRequestFault} (failed : buildRequest aesKey sync = .error fault) :
    Course ⟨[], .error (.request fault)⟩
  | unfetched {request : Http.Request} {e : SyncError}
    (built : buildRequest aesKey sync = .ok request) (failed : fetch transport request = .error e) :
    Course ⟨[.sent request], .error e⟩
  | refused {request : Http.Request} {fetched : CoordinatePayload} {reason : String}
    (built : buildRequest aesKey sync = .ok request) (got : fetch transport request = .ok fetched)
    (failed : backend.ingest sync.ownerId (named sync clock.naming fetched) = .error reason) :
    Course ⟨[.sent request,
        .handedIn ⟨sync.ownerId, named sync clock.naming fetched, .error reason⟩],
      .error (.rejected (.refused sync.name reason))⟩
  | accepted {request : Http.Request} {fetched : CoordinatePayload} {receipt : IngestReceipt}
    (built : buildRequest aesKey sync = .ok request) (got : fetch transport request = .ok fetched)
    (taken : backend.ingest sync.ownerId (named sync clock.naming fetched) = .ok receipt) :
    Course ⟨[.sent request, .handedIn ⟨sync.ownerId, named sync clock.naming fetched, .ok receipt⟩,
      .noted sync.id clock.noting (backend.recordTime sync.id clock.noting)], .ok receipt⟩

theorem execute_course : Course aesKey transport backend clock sync
    (execute aesKey transport backend clock sync) := by
  cases built : buildRequest aesKey sync with
  | error fault =>
    rw [execute_of_unbuilt built]
    exact .unbuilt built
  | ok request =>
    cases got : fetch transport request with
    | error e =>
      rw [execute_of_unfetched built got]
      exact .unfetched built got
    | ok fetched =>
      cases answer : backend.ingest sync.ownerId (named sync clock.naming fetched) with
      | error reason =>
        rw [execute_of_refused built got answer]
        exact .refused built got answer
      | ok receipt =>
        rw [execute_of_accepted built got answer]
        exact .accepted built got answer

variable {aesKey transport backend clock sync}

theorem Course.eq_execute {run : SyncRun}
    (course : Course aesKey transport backend clock sync run) :
    run = execute aesKey transport backend clock sync := by
  cases course with
  | unbuilt failed => rw [execute_of_unbuilt failed]
  | unfetched built failed => rw [execute_of_unfetched built failed]
  | refused built got failed => rw [execute_of_refused built got failed]
  | accepted built got taken => rw [execute_of_accepted built got taken]

end Geoflow.SyncService
