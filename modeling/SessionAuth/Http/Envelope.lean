import SessionAuth.Http.Message
import SessionAuth.Json.Value
import SessionAuth.Service.Fault

/-!
The envelope of all answers: an object with the status and the data. The data of a failure is an object
with a message.
-/

set_option autoImplicit false

namespace SessionAuth.Http

/-- Data in the envelope. -/
def envelope (status : Nat) (data : Json.Value) : Response :=
  .ofBody status .json
    (Json.Value.object [("status_code", .nat status), ("data", data)]).toText

/-- A message of failure in the envelope. -/
def failure (status : Nat) (message : String) : Response :=
  envelope status (.object [("message", .text message)])

/-- The status of a fault. -/
def statusOf : AuthFault → Nat
  | .invalidArgument _ => 400
  | .invalidCredentials | .invalidRefreshToken | .invalidToken => 401
  | .alreadyExists => 409
  | .internal => 500

/-- The response to a fault. -/
def ofFault (fault : AuthFault) : Response := failure (statusOf fault) fault.message

/-- The response while something the service needs is not there. -/
def unavailable (message : String) : Response := failure 503 message

/-- The response to a request without good credentials. -/
def unauthorized (message : String) : Response := failure 401 message

end SessionAuth.Http
