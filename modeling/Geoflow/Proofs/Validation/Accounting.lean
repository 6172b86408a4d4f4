import Geoflow.Proofs.Extract.Completeness
import Geoflow.Proofs.Http.Response
import Geoflow.Proofs.Outcome
import Geoflow.Proofs.Run.Counting
import Geoflow.Proofs.Run.Persistence
import Geoflow.Validation.Remote
import Mathlib.Data.List.ReduceOption

set_option autoImplicit false

namespace Geoflow

/-- The result of a record that was not validated: what is known of the record, and an error. -/
structure ValidationResult.IsFailureOf (record : CanonicalRecord) (result : ValidationResult) :
    Prop where
  made : ∃ text, result = .failed record text
  id : result.id = record.id
  address : result.systemAddress = record.fullAddress
  latitude : result.fieldLat = record.latitude
  longitude : result.fieldLng = record.longitude
  error : result.error.isSome = true
  bucket : result.bucket = .error

theorem ValidationResult.isFailureOf_failed (record : CanonicalRecord) (text : String) :
    IsFailureOf record (.failed record text) :=
  ⟨⟨text, rfl⟩, rfl, rfl, rfl, rfl, rfl, rfl⟩

namespace RemoteValidation

open Http.Response (isSuccess_iff octets_of_some octets_of_none)

/-- The result in a response: the document that a success has as its whole body, if it can be read
as a result. -/
def resultIn? (response : Http.Response) : Option ValidationResult :=
  if 200 ≤ response.status ∧ response.status < 300 then
    response.body.bind fun octets =>
      (readText ValidationResult.read (.ofOctets octets)).toOption
  else none

/-- The result that a service gives to a record. -/
def answer? (url : String) (transport : Http.Transport) (ownerId : Int64)
    (record : CanonicalRecord) : Option ValidationResult := do
  let request ← (request url ownerId record).toOption
  let response ← (transport request).toOption
  resultIn? (response.received request)

/-- Validation by a service that treats every request as it likes. -/
def validator (url : String) (service : Nat → Http.Transport) (ownerId : Int64) : Validator :=
  fun k record => validate url (service k) ownerId record

/-- The results that the service gives to records, where it gives one. -/
def answers (url : String) (service : Nat → Http.Transport) (ownerId : Int64)
    (records : List CanonicalRecord) : List (Option ValidationResult) :=
  records.mapIdx fun k record => answer? url (service k) ownerId record

variable {url : String} {transport : Http.Transport} {ownerId : Int64} {record : CanonicalRecord}
  {result : ValidationResult} {service : Nat → Http.Transport} {records : List CanonicalRecord}

theorem toOption_readResponse (response : Http.Response) :
    (readResponse response).toOption = resultIn? response := by
  unfold resultIn?
  split
  · rename_i success
    rw [readResponse, isSuccess_iff.mpr success]
    cases body : response.body with
    | none =>
      rw [octets_of_none body]
      rfl
    | some octets =>
      rw [octets_of_some body]
      cases read : readText ValidationResult.read (.ofOctets octets) <;> simp [read] <;> rfl
  · rename_i failed
    rw [readResponse, Bool.eq_false_iff.mpr fun success => failed (isSuccess_iff.mp success)]
    rfl

theorem toOption_call (url : String) (transport : Http.Transport) (ownerId : Int64)
    (record : CanonicalRecord) :
    (call url transport ownerId record).toOption = answer? url transport ownerId record := by
  unfold answer? call
  cases request url ownerId record with
  | error fault => rfl
  | ok request =>
    change
      ((Http.send transport request).mapError ValidationFault.request >>= readResponse).toOption =
        (transport request).toOption.bind fun response => resultIn? (response.received request)
    rw [Http.send]
    cases transport request with
    | error fault => rfl
    | ok response => exact toOption_readResponse (response.received request)

theorem validate_of_answer (given : answer? url transport ownerId record = some result) :
    validate url transport ownerId record = result := by
  rw [← toOption_call] at given
  unfold validate
  cases called : call url transport ownerId record with
  | ok found =>
    rw [called] at given
    exact Option.some.inj given
  | error fault =>
    rw [called] at given
    cases given

theorem validate_of_no_answer (missing : answer? url transport ownerId record = none) :
    (validate url transport ownerId record).IsFailureOf record := by
  rw [← toOption_call] at missing
  unfold validate
  cases called : call url transport ownerId record with
  | ok found =>
    rw [called] at missing
    cases missing
  | error fault => exact ValidationResult.isFailureOf_failed record _

theorem validate_cases (url : String) (transport : Http.Transport) (ownerId : Int64)
    (record : CanonicalRecord) :
    match answer? url transport ownerId record with
    | some result => validate url transport ownerId record = result
    | none => (validate url transport ownerId record).IsFailureOf record := by
  cases given : answer? url transport ownerId record with
  | some result => exact validate_of_answer given
  | none => exact validate_of_no_answer given

theorem answers_cons (url : String) (service : Nat → Http.Transport) (ownerId : Int64)
    (record : CanonicalRecord) (records : List CanonicalRecord) :
    answers url service ownerId (record :: records) =
      answer? url (service 0) ownerId record ::
        answers url (fun k => service (k + 1)) ownerId records :=
  List.mapIdx_cons

theorem results_cons (url : String) (service : Nat → Http.Transport) (ownerId : Int64)
    (record : CanonicalRecord) (records : List CanonicalRecord) :
    (record :: records).mapIdx (validator url service ownerId) =
      validate url (service 0) ownerId record ::
        records.mapIdx (validator url (fun k => service (k + 1)) ownerId) :=
  List.mapIdx_cons

/-- Results of a kind are answers of that kind, and those that failed if these are of that kind. -/
theorem countP_results {kind : ValidationResult → Bool} {counts : Bool}
    (ofFailure : ∀ {record result}, ValidationResult.IsFailureOf record result →
      kind result = counts)
    (service : Nat → Http.Transport) (records : List CanonicalRecord) :
    (records.mapIdx (validator url service ownerId)).countP kind =
      (if counts then (answers url service ownerId records).countP (·.isNone) else 0) +
        (answers url service ownerId records).reduceOption.countP kind := by
  induction records generalizing service with
  | nil => cases counts <;> rfl
  | cons record rest ih =>
    have here := validate_cases url (service 0) ownerId record
    rw [results_cons, answers_cons, List.countP_cons, List.countP_cons, ih]
    cases given : answer? url (service 0) ownerId record with
    | some result =>
      rw [given] at here
      rw [here, List.reduceOption_cons_of_some, List.countP_cons]
      simp only [Option.isNone_some, Bool.false_eq_true, if_false, Nat.add_zero]
      omega
    | none =>
      rw [given] at here
      rw [ofFailure here, List.reduceOption_cons_of_none]
      cases counts <;> simp
      omega

/-- The errors among answers: those that are missing and those that no label places. -/
def errorsIn (answers : List (Option ValidationResult)) : Nat :=
  answers.countP (·.isNone) + answers.reduceOption.countP ValidationResult.isUnplaced

theorem errorsIn_le_length (answers : List (Option ValidationResult)) :
    errorsIn answers ≤ answers.length := by
  unfold errorsIn
  induction answers with
  | nil => exact Nat.le_refl 0
  | cons answer rest ih =>
    cases answer with
    | none =>
      rw [List.reduceOption_cons_of_none, List.countP_cons_of_pos (by rfl), List.length_cons]
      omega
    | some result =>
      have atMost : [result].countP ValidationResult.isUnplaced ≤ 1 := List.countP_le_length
      rw [List.reduceOption_cons_of_some, List.countP_cons_of_neg (by simp), List.length_cons,
        ← List.singleton_append, List.countP_append]
      omega

/-- A session that counts all answers to so many records: as errors those in `errorsIn`, and by its
label every other one. -/
structure Accounted (rows : Nat) (answers : List (Option ValidationResult))
    (session : RunSession) : Prop where
  total : session.totalCount = .ofNat rows
  errors : session.errorCount = .ofNat (errorsIn answers)
  labelled : ∀ bucket, bucket ≠ .error →
    session.count bucket = .ofNat (answers.reduceOption.countP (·.bucket = bucket))
  /-- The counters are words, which do not run over as long as the total does not. -/
  whole : rows < UInt64.size →
    session.totalCount.toNat = rows ∧ session.errorCount.toNat = errorsIn answers

theorem accounted_foldl (url : String) (service : Nat → Http.Transport) (ownerId : Int64)
    (now : Instant) (records : List CanonicalRecord) :
    Accounted records.length (answers url service ownerId records)
      ((records.mapIdx (validator url service ownerId)).foldl RunSession.record
        (.empty ownerId now)) := by
  have zero : (RunSession.empty ownerId now).totalCount = 0 := rfl
  have total := totalCount_foldl (records.mapIdx (validator url service ownerId))
    (.empty ownerId now)
  rw [zero, UInt64.zero_add, List.length_mapIdx] at total
  have unplaced := fun {record result} (failure : ValidationResult.IsFailureOf record result) =>
    ValidationResult.bucket_eq_error_iff.mp failure.bucket
  have errors := RunSession.errorCount_foldl (records.mapIdx (validator url service ownerId))
    ownerId now
  rw [countP_results unplaced, if_pos rfl] at errors
  exact {
    total := total
    errors := errors
    labelled := by
      intro bucket placed
      have elsewhere : ∀ {record result}, ValidationResult.IsFailureOf record result →
          decide (result.bucket = bucket) = false :=
        fun failure => decide_eq_false fun here => placed (here ▸ failure.bucket)
      rw [RunSession.count_foldl, RunSession.count_empty, UInt64.zero_add,
        countP_results elsewhere, if_neg (by decide), Nat.zero_add]
    whole := by
      intro fits
      have bound := errorsIn_le_length (answers url service ownerId records)
      rw [answers, List.length_mapIdx] at bound
      rw [total, errors]
      exact ⟨UInt64.toNat_ofNat_of_lt' fits,
        UInt64.toNat_ofNat_of_lt' (Nat.lt_of_le_of_lt bound fits)⟩ }

/-- A scheduled run that has a result for every row and counts them all. -/
structure Completed (url : String) (service : Nat → Http.Transport) (ownerId : Int64)
    (rows : List Row) (run : ScheduledRun) : Prop where
  session : ∃ session, run.result = .ok session ∧
    Accounted rows.length (answers url service ownerId (rows.map Row.toCanonical)) session
  validated : run.state.validated = rows.map Row.toCanonical
  each : run.state.streamed.length = rows.length
  answered : ∀ {k : Nat} {row : Row} {result : ValidationResult}, rows[k]? = some row →
    answer? url (service k) ownerId row.toCanonical = some result →
      run.state.streamed[k]? = some result
  failed : ∀ {k : Nat} {row : Row}, rows[k]? = some row →
    answer? url (service k) ownerId row.toCanonical = none →
      ∃ result, run.state.streamed[k]? = some result ∧ result.IsFailureOf row.toCanonical

end RemoteValidation

open RemoteValidation in
theorem RunEnding.completed {url : String} {service : Nat → Http.Transport} {rows : List Row}
    {n : Nat} {ownerId : Int64} {now : Instant} {driven : Driven}
    (ending : RunEnding (validator url service ownerId) openSink n (rows.map .ok)
      (.empty ownerId now) driven.state driven.outcome) (store : SessionStore) :
    Completed url service ownerId rows (driven.scheduled store) := by
  obtain ⟨state, outcome⟩ := ending.goes_on goesOn_openSink
  rw [offered_of_faultless firstError?_of_rows, leadingRecords_of_rows] at state
  rw [firstError?_of_rows] at outcome
  have streamed : (driven.scheduled store).state.streamed =
      (rows.map Row.toCanonical).mapIdx (validator url service ownerId) := by
    rw [Driven.scheduled_state, state]
    rfl
  have result : (driven.scheduled store).result = .ok driven.state.session :=
    (Driven.scheduled_of_ok outcome).1
  rw [state] at result
  exact {
    session := by
      have accounted := accounted_foldl url service ownerId now (rows.map Row.toCanonical)
      rw [List.length_map] at accounted
      exact ⟨_, result, accounted⟩
    validated := by
      rw [Driven.scheduled_state, state]
      rfl
    each := by rw [streamed, List.length_mapIdx, List.length_map]
    answered := by
      intro k row answer here given
      rw [streamed, List.getElem?_mapIdx, List.getElem?_map, here]
      exact congrArg some (validate_of_answer given)
    failed := by
      intro k row here missing
      rw [streamed, List.getElem?_mapIdx, List.getElem?_map, here]
      exact ⟨_, rfl, validate_of_no_answer missing⟩ }

open RemoteValidation in
/-- A service that fails takes neither a record from a scheduled run nor its success: what it does
not answer counts as an error of the record. Only a batch without a buffer takes both. -/
theorem runScheduled_completed_iff (url : String) (service : Nat → Http.Transport)
    (rows : List Row) (batchSize : Nat) (ownerId : Int64) (now : Instant) (store : SessionStore) :
    Buffered (batchSize < 2 ^ 57) (fun run => Completed url service ownerId rows run)
      (runScheduled (.ok (rows.map .ok)) (validator url service ownerId) batchSize ownerId now
        store) :=
  (drive_ended (validator url service ownerId) openSink batchSize (.empty ownerId now)
    (rows.map .ok)).map _ fun _ ending => ending.completed store

/-- A service that does not answer, refuses, answers a result, and then answers nonsense. -/
def moodyService : Nat → Http.Transport
  | 0 => fun _ => .error .timedOut
  | 1 => fun _ => .ok ⟨503, some []⟩
  | 2 => fun _ => .ok ⟨200, some (Utf8.encode ("\x7b\"id\":\"c\",\"system_address\":\"\",".toList ++
      "\"field_lat\":0,\"field_lng\":0,\"accuracy_level\":\"accurate\"\x7d".toList))⟩
  | _ => fun _ => .ok ⟨200, some (Utf8.encode "<html>".toList)⟩

open RemoteValidation in
theorem runScheduled_completed_iff_moody : ∃ run session,
    runScheduled (.ok ((List.replicate 4 (Row.mk [])).map .ok))
      (validator "http://geo/" moodyService 7) 3 7 .epoch = .ok run ∧ run.result = .ok session ∧
    session.totalCount.toNat = 4 ∧ session.errorCount.toNat = 3 ∧ session.accurateCount = 1 := by
  obtain ⟨run, given, completed⟩ := (runScheduled_completed_iff "http://geo/" moodyService
    (List.replicate 4 (Row.mk [])) 3 7 .epoch fun _ => .ok ()).holds_iff.mpr (by decide)
  obtain ⟨session, result, counted⟩ := completed.session
  obtain ⟨total, errors⟩ := counted.whole (by decide)
  refine ⟨run, session, given, result, total, ?_, ?_⟩
  · rw [errors]
    decide +kernel
  · have accurate := counted.labelled .accurate (by decide)
    rw [RunSession.count] at accurate
    rw [accurate]
    decide +kernel

open RemoteValidation in
/-- A run loses its one record to the size of its batches, whatever the service would answer. -/
theorem record_unaccounted : ¬ ∃ run session,
    runScheduled (.ok [.ok ⟨[]⟩]) (validator "http://geo/" moodyService 7) 9223372036854775807 7
      .epoch = .ok run ∧ run.result = .ok session ∧ session.totalCount.toNat = 1 := by
  rintro ⟨run, session, given, -⟩
  rw [runScheduled_of_le (by decide)] at given
  cases given

end Geoflow
