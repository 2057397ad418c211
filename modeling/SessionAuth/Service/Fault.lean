/-!
What the service answers when it does not do what it is asked to do. The causes say nothing about
the inside of the service.
-/

set_option autoImplicit false

namespace SessionAuth

/-- Why the service refuses. -/
inductive AuthFault where
  /-- What was passed cannot be meant; the message says why. -/
  | invalidArgument (message : String)
  | invalidCredentials
  | invalidRefreshToken
  | invalidToken
  | alreadyExists
  /-- Something went wrong that the caller cannot help. -/
  | internal
  deriving DecidableEq, Repr

/-- The wording of a cause. -/
def AuthFault.message : AuthFault → String
  | .invalidArgument message => message
  | .invalidCredentials => "invalid credentials"
  | .invalidRefreshToken => "invalid refresh token"
  | .invalidToken => "invalid token"
  | .alreadyExists => "email already registered"
  | .internal => "internal error"

end SessionAuth
