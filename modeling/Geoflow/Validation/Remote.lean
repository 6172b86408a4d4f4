import Geoflow.Http.Message
import Geoflow.Sync.Payload
import Geoflow.Validation.Result

set_option autoImplicit false

namespace Geoflow

inductive ValidationFault where
  | request (fault : Http.Fault)
  | status (code : Nat)
  | response (fault : Http.Fault)
  deriving DecidableEq, Repr

def ValidationFault.message : ValidationFault → String
  | .request (.sending _ .timedOut) => "validation service timed out"
  | .request fault => fault.message
  | .status code => "validation service returned " ++ Numeral.ofNat code
  | .response fault => "invalid validation response: " ++ fault.message

namespace RemoteValidation

def body (ownerId : Int64) (record : CanonicalRecord) : Json :=
  .ofEntries [("owner_id", .int ownerId.toInt), ("record", record.toJson)]

def request (url : String) (ownerId : Int64) (record : CanonicalRecord) :
    Except Http.Fault Http.Request :=
  Http.buildRequest "POST" url [Http.Header.build? "content-type" "application/json"]
    (some (body ownerId record))

def readResponse (response : Http.Response) : Except ValidationFault ValidationResult :=
  if !response.isSuccess then .error (.status response.status)
  else match response.octets with
    | .error fault => .error (.response fault)
    | .ok octets =>
      match readText ValidationResult.read (.ofOctets octets) with
      | .ok result => .ok result
      | .error _ => .error (.response .decoding)

def call (url : String) (transport : Http.Transport) (ownerId : Int64) (record : CanonicalRecord) :
    Except ValidationFault ValidationResult := do
  let request ← (request url ownerId record).mapError ValidationFault.request
  let response ← (Http.send transport request).mapError ValidationFault.request
  readResponse response

/-- The result for a record, whatever the service does. -/
def validate (url : String) (transport : Http.Transport) (ownerId : Int64)
    (record : CanonicalRecord) : ValidationResult :=
  match call url transport ownerId record with
  | .ok result => result
  | .error fault => .failed record fault.message

end RemoteValidation

end Geoflow
