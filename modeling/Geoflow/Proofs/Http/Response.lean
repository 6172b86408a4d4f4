import Geoflow.Http.Message

set_option autoImplicit false

namespace Geoflow.Http.Response

variable {response : Response} {octets : List UInt8}

theorem isSuccess_iff :
    response.isSuccess = true ↔ 200 ≤ response.status ∧ response.status < 300 := by
  rw [isSuccess, Bool.and_eq_true, decide_eq_true_eq, decide_eq_true_eq]

theorem octets_of_some (whole : response.body = some octets) : response.octets = .ok octets := by
  rw [Response.octets, whole]

theorem octets_of_none (cut : response.body = none) : response.octets = .error .decoding := by
  rw [Response.octets, cut]

end Geoflow.Http.Response
