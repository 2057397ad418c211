import SessionAuth.Account.User
import SessionAuth.Network.IpAddress
import SessionAuth.Time.Instant

/-!
Sessions: what is kept for each refresh secret that has been handed out.

A session is active until it is revoked or expires. Revocation is looked at first, and a session has
expired at the very moment of its expiry.
-/

set_option autoImplicit false

namespace SessionAuth

/-- The identifier of a session. -/
structure SessionId where
  uuid : Uuid
  deriving DecidableEq, Repr

/-- The text of an identifier. -/
def SessionId.toText (s : SessionId) : String := s.uuid.toText

/-- What is known about the client of a session. -/
structure Client where
  userAgent : Option String
  ip : Option IpAddress
  deriving DecidableEq, Repr

/-- A session. -/
structure Session where
  id : SessionId
  userId : UserId
  digest : Bytes
  createdAt : Instant
  expiresAt : Instant
  revokedAt : Option Instant
  client : Client
  rotatedFrom : Option SessionId
  deriving DecidableEq, Repr

/-- What can be said about a session at a moment. -/
inductive SessionState where
  | active
  | revoked
  | expired
  deriving DecidableEq, Repr

/-- The state of a session with an expiry and a revocation time. -/
def SessionState.at (expiresAt : Instant) (revokedAt : Option Instant) (now : Instant) :
    SessionState :=
  if revokedAt.isSome then .revoked else if expiresAt ≤ now then .expired else .active

/-- The state of a session at a moment. -/
def Session.state (s : Session) (now : Instant) : SessionState :=
  .at s.expiresAt s.revokedAt now

/-- Whether a session is active at a moment. -/
def Session.isActive (s : Session) (now : Instant) : Bool := s.state now == .active

/-- What a rotation leads to: the new session and its user. -/
structure RotatedSession where
  sessionId : SessionId
  user : User
  deriving DecidableEq, Repr

/-- Why an operation on sessions fails. -/
inductive SessionFault where
  | unknown
  | revoked
  | expired
  | database (message : String)
  deriving DecidableEq, Repr

/-- The wording of a cause. -/
def SessionFault.message : SessionFault → String
  | .unknown => "Refresh token not found"
  | .revoked => "Refresh token revoked"
  | .expired => "Refresh token expired"
  | .database message => "Database error: " ++ message

/-- Whether the fault lies in what was presented, and not in the store. -/
def SessionFault.isRejection : SessionFault → Bool
  | .unknown | .revoked | .expired => true
  | .database _ => false

end SessionAuth
