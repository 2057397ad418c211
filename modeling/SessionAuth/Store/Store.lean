import SessionAuth.Session.Session
import SessionAuth.World

/-!
What the service asks of a store of users and sessions.
-/

set_option autoImplicit false

namespace SessionAuth

/-- The operations of a store whose state is of type `σ`. -/
structure Store (σ : Type) where
  /-- Adds a user whose address is not taken. -/
  createUser : User → Act σ UserFault User
  /-- The user with an address. -/
  findUserByEmail : Email → Act σ UserFault (Option User)
  /-- Adds a session for a secret. -/
  createSession : UserId → String → Instant → Client → Option SessionId →
    Act σ SessionFault SessionId
  /-- Revokes the session of an old secret and adds one for a new secret, both or neither. -/
  rotateSession : String → String → Instant → Client → Act σ SessionFault RotatedSession
  /-- Revokes the session of a secret. -/
  revokeSession : String → Act σ SessionFault Unit
  /-- Revokes all sessions of a user and counts them. -/
  revokeAllSessions : UserId → Act σ SessionFault Nat

end SessionAuth
