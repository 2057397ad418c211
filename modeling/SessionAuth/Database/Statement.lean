import SessionAuth.Database.Cell
import SessionAuth.Session.Session

/-!
The statements that the service sends to its database, their text and their parameters.

Times are kept in whole microseconds counted from the start of 2000. What is sent has been cut to that
measure before, so that the rows below hold exactly what the database keeps.
-/

set_option autoImplicit false

namespace SessionAuth.Database

/-- A row of the table of users. The address is whatever text the table holds. -/
structure UserRow where
  id : UserId
  email : String
  passwordHash : String
  emailVerifiedAt : Option Instant
  createdAt : Instant
  updatedAt : Instant
  deriving DecidableEq, Repr

/-- The row of a user. -/
def UserRow.ofUser (u : User) : UserRow where
  id := u.id
  email := u.email.text
  passwordHash := u.passwordHash
  emailVerifiedAt := u.emailVerifiedAt.map Instant.towardStorageEpoch
  createdAt := u.createdAt.towardStorageEpoch
  updatedAt := u.updatedAt.towardStorageEpoch

/-- What is given of a new row of the table of sessions; the rest is filled in by the database. -/
structure NewSession where
  id : SessionId
  userId : UserId
  digest : Bytes
  expiresAt : Instant
  userAgent : Option String
  ip : Option String
  rotatedFrom : Option SessionId
  deriving DecidableEq, Repr

/-- A new row. -/
def NewSession.of (id : SessionId) (userId : UserId) (digest : Bytes) (expiresAt : Instant)
    (client : Client) (rotatedFrom : Option SessionId) : NewSession where
  id
  userId
  digest
  expiresAt := expiresAt.towardStorageEpoch
  userAgent := client.userAgent
  ip := client.ip.map IpAddress.toText
  rotatedFrom

/-- The statements. -/
inductive Statement where
  | start
  | commit
  | rollback
  | ping
  /-- Bounds the wait for a locked row until the end of the transaction. -/
  | limitLockWait (limit : Duration)
  | insertUser (row : UserRow)
  | userById (id : UserId)
  | userByEmail (email : String)
  | insertSession (row : NewSession)
  /-- The session with a digest, unless it is revoked or has expired. -/
  | activeSession (digest : Bytes)
  /-- The session with a digest, locked until the end of the transaction. -/
  | lockSession (digest : Bytes)
  | revokeById (id : SessionId) (moment : Instant)
  | revokeByDigest (digest : Bytes)
  | revokeByUser (userId : UserId)
  deriving DecidableEq, Repr

namespace Statement

/-- The text of a statement. -/
def text : Statement → String
  | .start => "BEGIN"
  | .commit => "COMMIT"
  | .rollback => "ROLLBACK"
  | .ping => "SELECT 1"
  | .limitLockWait _ => "SELECT set_config('lock_timeout', $1, true)"
  | .insertUser _ =>
    "INSERT INTO users (id, email, password_hash, email_verified_at, created_at, updated_at) " ++
      "VALUES ($1, $2, $3, $4, $5, $6)"
  | .userById _ =>
    "SELECT id, email, password_hash, email_verified_at, created_at, updated_at FROM users " ++
      "WHERE id = $1"
  | .userByEmail _ =>
    "SELECT id, email, password_hash, email_verified_at, created_at, updated_at FROM users " ++
      "WHERE email = $1"
  | .insertSession _ =>
    "INSERT INTO sessions " ++
      "(id, user_id, refresh_token_hash, expires_at, user_agent, ip, rotated_from) " ++
      "VALUES ($1, $2, $3, $4, $5, $6::inet, $7)"
  | .activeSession _ =>
    "SELECT id, user_id, refresh_token_hash, created_at, expires_at, revoked_at, user_agent, " ++
      "host(ip) AS ip, rotated_from FROM sessions " ++
      "WHERE refresh_token_hash = $1 AND revoked_at IS NULL AND expires_at > now()"
  | .lockSession _ =>
    "SELECT id, user_id, expires_at, revoked_at FROM sessions " ++
      "WHERE refresh_token_hash = $1 FOR UPDATE"
  | .revokeById _ _ =>
    "UPDATE sessions SET revoked_at = $2 WHERE id = $1 AND revoked_at IS NULL"
  | .revokeByDigest _ =>
    "UPDATE sessions SET revoked_at = now() WHERE refresh_token_hash = $1 AND revoked_at IS NULL"
  | .revokeByUser _ =>
    "UPDATE sessions SET revoked_at = now() WHERE user_id = $1 AND revoked_at IS NULL"

/-- The parameters of a statement. -/
def parameters : Statement → List Cell
  | .start | .commit | .rollback | .ping => []
  | .limitLockWait limit => [.text (Decimal.toText limit.millis ++ "ms")]
  | .insertUser row =>
    [.uuid row.id.uuid, .text row.email, .text row.passwordHash,
      .ofOption .time row.emailVerifiedAt, .time row.createdAt, .time row.updatedAt]
  | .userById id => [.uuid id.uuid]
  | .userByEmail email => [.text email]
  | .insertSession row =>
    [.uuid row.id.uuid, .uuid row.userId.uuid, .bytes row.digest, .time row.expiresAt,
      .ofOption .text row.userAgent, .ofOption .text row.ip,
      .ofOption (fun s => .uuid s.uuid) row.rotatedFrom]
  | .activeSession digest | .lockSession digest | .revokeByDigest digest => [.bytes digest]
  | .revokeById id moment => [.uuid id.uuid, .time moment]
  | .revokeByUser userId => [.uuid userId.uuid]

end Statement

end SessionAuth.Database
