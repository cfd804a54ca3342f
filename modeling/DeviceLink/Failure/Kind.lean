/-!
# Kinds of failure

Every failure that leaves the link is of one of eighteen kinds, whatever its source.  Retry policy
looks at nothing but the kind.

* `Kind` — the closed set of kinds.
* `Kind.ofStatus` — the kind of a service's status code.
-/

namespace DeviceLink.Failure

/-- What went wrong, independent of service and client library. -/
inductive Kind where
  | operationCancelled
  | connectionFailed
  | connectionDropped
  | argument
  | unauthorized
  | quotaExceeded
  | notFound
  | timeout
  | alreadyExists
  | invalidEtag
  | messageTooLarge
  | throttling
  | internalService
  | badResponse
  | serviceUnavailable
  | failedStatusCode
  | transport
  | pipeline
  deriving DecidableEq, Repr, Inhabited

namespace Kind

def name : Kind → String
  | operationCancelled => "OperationCancelled"
  | connectionFailed => "ConnectionFailed"
  | connectionDropped => "ConnectionDropped"
  | argument => "Argument"
  | unauthorized => "Unauthorized"
  | quotaExceeded => "QuotaExceeded"
  | notFound => "NotFound"
  | timeout => "Timeout"
  | alreadyExists => "AlreadyExists"
  | invalidEtag => "InvalidEtag"
  | messageTooLarge => "MessageTooLarge"
  | throttling => "Throttling"
  | internalService => "InternalService"
  | badResponse => "BadResponse"
  | serviceUnavailable => "ServiceUnavailable"
  | failedStatusCode => "FailedStatusCode"
  | transport => "Transport"
  | pipeline => "Pipeline"

def all : List Kind :=
  [operationCancelled, connectionFailed, connectionDropped, argument, unauthorized,
    quotaExceeded, notFound, timeout, alreadyExists, invalidEtag, messageTooLarge, throttling,
    internalService, badResponse, serviceUnavailable, failedStatusCode, transport, pipeline]

def ofName? (s : String) : Option Kind :=
  all.find? (·.name = s)

/-- The kind of a status code; a code outside the table is a failure of its own kind. -/
def ofStatus (code : Nat) : Kind :=
  match code with
  | 400 => argument
  | 401 => unauthorized
  | 403 => quotaExceeded
  | 404 => notFound
  | 408 => timeout
  | 409 => alreadyExists
  | 412 => invalidEtag
  | 413 => messageTooLarge
  | 429 => throttling
  | 500 => internalService
  | 502 => badResponse
  | 503 => serviceUnavailable
  | 504 => timeout
  | _ => failedStatusCode

end Kind

end DeviceLink.Failure
