import Geoflow.Cipher.Secret
import Geoflow.Http.Message
import Geoflow.Sync.External
import Geoflow.Sync.Payload

set_option autoImplicit false

namespace Geoflow

inductive SyncRequestFault where
  | method (text : String)
  | http (fault : Http.Fault)
  | body (fault : Http.Fault)
  deriving DecidableEq, Repr

def SyncRequestFault.message : SyncRequestFault → String
  | .method text => "invalid method " ++ ticked text
  | .http fault => fault.message
  | .body fault => "failed to read response body: " ++ fault.message

inductive RejectFault where
  | noPoints
  | refused (name reason : String)
  deriving DecidableEq, Repr

def RejectFault.message : RejectFault → String
  | .noPoints => "empty points payload"
  | .refused name reason =>
    "integration " ++ name ++ " fetched data but ingest rejected it: " ++ reason

inductive SyncError where
  | notFound (id : Int64)
  | request (fault : SyncRequestFault)
  | status (code : Nat)
  | decode (error : ReadError)
  | rejected (fault : RejectFault)
  | store (text : String)
  deriving DecidableEq, Repr

namespace SyncError

def code : SyncError → String
  | .notFound _ => "NOT_FOUND"
  | .request _ => "REQUEST_ERROR"
  | .status _ => "STATUS_ERROR"
  | .decode _ => "DECODE_ERROR"
  | .rejected _ => "REJECTED"
  | .store _ => "STORE_ERROR"

def message : SyncError → String
  | .notFound id => "Sync " ++ String.ofList (Numeral.ofInt id.toInt) ++ " not found"
  | .request fault => "Request error: " ++ fault.message
  | .status code => "Remote returned non-success status code: " ++ Numeral.ofNat code
  | .decode error => "Decode error: " ++ error.message
  | .rejected fault => "Payload rejected: " ++ fault.message
  | .store text => "Store error: " ++ text

end SyncError

/-- Where syncs are kept and points are handed in; each part may fail. -/
structure SyncBackend where
  find : Int64 → Except String (Option ExternalSync)
  ingest : Int64 → CoordinatePayload → Except String IngestReceipt
  recordTime : Int64 → Instant → Except String Unit

/-- A payload that was handed in, with its owner and the answer. -/
structure Handover where
  ownerId : Int64
  payload : CoordinatePayload
  answer : Except String IngestReceipt

inductive SyncStep where
  | sent (request : Http.Request)
  | handedIn (handover : Handover)
  /-- The time of the sync was to be noted, and whether it was. -/
  | noted (id : Int64) (time : Instant) (answer : Except String Unit)

/-- Everything that one sync did, in its order, and what came of it. -/
structure SyncRun where
  steps : List SyncStep := []
  result : Except SyncError IngestReceipt

namespace SyncRun

def requests (run : SyncRun) : List Http.Request :=
  run.steps.filterMap fun | .sent request => some request | _ => none

def handovers (run : SyncRun) : List Handover :=
  run.steps.filterMap fun | .handedIn handover => some handover | _ => none

def notes (run : SyncRun) : List (Int64 × Except String Unit) :=
  run.steps.filterMap fun | .noted id _ answer => some (id, answer) | _ => none

def request (run : SyncRun) : Option Http.Request := run.requests.head?

def handover (run : SyncRun) : Option Handover := run.handovers.head?

def noted (run : SyncRun) : Option (Int64 × Except String Unit) := run.notes.head?

end SyncRun

/-- A part of a sync, which adds to the steps before it and may fail. -/
abbrev SyncM := ExceptT SyncError (StateM (List SyncStep))

def SyncM.add (step : SyncStep) : SyncM Unit := modify (· ++ [step])

namespace SyncService

/-- The value of the authorization header: the opened secret, if there is one that opens and is not
empty. -/
def authValue (aesKey : String) (sync : ExternalSync) : Option String :=
  if sync.authHeaderKey.isEmpty ∨ sync.authHeaderValue.isEmpty then none
  else match Secret.decrypt sync.authHeaderValue aesKey with
    | .ok value => if value.isEmpty then none else some value
    | .error _ => none

def buildRequest (aesKey : String) (sync : ExternalSync) : Except SyncRequestFault Http.Request :=
  match Http.readMethod? sync.method with
  | none => .error (.method sync.method)
  | some method =>
    let auth := (authValue aesKey sync).map (Http.Header.build? sync.authHeaderKey)
    (Http.buildRequest method sync.url
      (Http.Header.build? "accept" "application/json" :: auth.toList) none).mapError .http

/-- The batch name of a payload that has none. -/
def generatedBatchId (id : Int64) (now : Instant) : String :=
  "ERP-SYNC-" ++ String.ofList (Numeral.ofInt id.toInt) ++ "-"
    ++ String.ofList (Numeral.ofInt now.seconds)

def named (sync : ExternalSync) (now : Instant) (payload : CoordinatePayload) : CoordinatePayload :=
  if payload.batchId.isEmpty then { payload with batchId := generatedBatchId sync.id now }
  else payload

def readResponse (response : Http.Response) : Except SyncError CoordinatePayload := do
  if !response.isSuccess then throw (.status response.status)
  let octets ← response.octets.mapError fun fault => SyncError.request (.body fault)
  let payload ← (readText CoordinatePayload.read (.ofOctets octets)).mapError SyncError.decode
  if payload.points.isEmpty then throw (.rejected .noPoints)
  return payload

def fetch (transport : Http.Transport) (request : Http.Request) :
    Except SyncError CoordinatePayload := do
  let response ← (Http.send transport request).mapError fun fault => SyncError.request (.http fault)
  readResponse response

/-- When a sync reads the clock: to name a batch, and to note its time behind the hand-over. -/
structure Clock where
  naming : Instant
  noting : Instant

/-- The parts of a sync in their order. Everything before the hand-over can fail without effect; the
time of the sync is noted after it, and that this may fail does not matter. -/
def perform (aesKey : String) (transport : Http.Transport) (backend : SyncBackend) (clock : Clock)
    (sync : ExternalSync) : SyncM IngestReceipt := do
  let request ← (buildRequest aesKey sync).mapError SyncError.request
  SyncM.add (.sent request)
  let payload := named sync clock.naming (← fetch transport request)
  let answer := backend.ingest sync.ownerId payload
  SyncM.add (.handedIn ⟨sync.ownerId, payload, answer⟩)
  let receipt ← answer.mapError fun reason => SyncError.rejected (.refused sync.name reason)
  SyncM.add (.noted sync.id clock.noting (backend.recordTime sync.id clock.noting))
  return receipt

def execute (aesKey : String) (transport : Http.Transport) (backend : SyncBackend) (clock : Clock)
    (sync : ExternalSync) : SyncRun :=
  let (result, steps) := (perform aesKey transport backend clock sync).run.run []
  ⟨steps, result⟩

def executeById (aesKey : String) (transport : Http.Transport) (backend : SyncBackend)
    (clock : Clock) (id : Int64) : SyncRun :=
  match backend.find id with
  | .error text => { result := .error (.store text) }
  | .ok none => { result := .error (.notFound id) }
  | .ok (some sync) => execute aesKey transport backend clock sync

end SyncService

end Geoflow
