import SessionAuth.Database.Server
import SessionAuth.Session.Secret
import SessionAuth.Store.Store

/-!
Users and sessions in the tables of a database.

A rotation runs in one transaction that locks the row of the old secret. It decides by that row, then
revokes it, adds the row of the new secret and looks for the owner; whatever goes wrong, both tables
are as they were before.
-/

set_option autoImplicit false

namespace SessionAuth.Relational

open Database (Cell Row QueryFault NewSession UserRow)

/-! ## Reading rows -/

/-- A fault of a query on users. -/
def userFault (fault : QueryFault) : UserFault := .database fault.message

/-- A fault of a query on sessions. -/
def sessionFault (fault : QueryFault) : SessionFault := .database fault.message

/-- Reads the user of a row, whose address has to be well-formed. -/
def readUser (r : Row) : Except UserFault User := do
  -- of several columns that cannot be read, the one that is read first is reported
  let email ← (r.required Cell.text? "email").mapError userFault
  let id ← (r.required Cell.uuid? "id").mapError userFault
  let email ← (Email.parse email).mapError .invalidEmail
  let passwordHash ← (r.required Cell.text? "password_hash").mapError userFault
  let emailVerifiedAt ← (r.optional Cell.time? "email_verified_at").mapError userFault
  let createdAt ← (r.required Cell.time? "created_at").mapError userFault
  let updatedAt ← (r.required Cell.time? "updated_at").mapError userFault
  return { id := ⟨id⟩, email, passwordHash, emailVerifiedAt, createdAt, updatedAt }

/-- Reads the session of a row. An internet address that is none is dropped. -/
def readSession (r : Row) : Except QueryFault Session := do
  let digest ← r.required Cell.bytes? "refresh_token_hash"
  if digest.length ≠ 32 then throw (.digestLength "refresh_token_hash")
  let ip ← r.optional Cell.text? "ip"
  let id ← r.required Cell.uuid? "id"
  let userId ← r.required Cell.uuid? "user_id"
  let createdAt ← r.required Cell.time? "created_at"
  let expiresAt ← r.required Cell.time? "expires_at"
  let revokedAt ← r.optional Cell.time? "revoked_at"
  let userAgent ← r.optional Cell.text? "user_agent"
  let rotatedFrom ← r.optional Cell.uuid? "rotated_from"
  return {
    id := ⟨id⟩
    userId := ⟨userId⟩
    digest
    createdAt
    expiresAt
    revokedAt
    client := ⟨userAgent, ip.bind IpAddress.parse?⟩
    rotatedFrom := rotatedFrom.map SessionId.mk }

/-- What a rotation has to know of a session. -/
structure LockedSession where
  id : SessionId
  userId : UserId
  expiresAt : Instant
  revokedAt : Option Instant
  deriving DecidableEq, Repr

/-- Reads what a rotation has to know. -/
def readLockedSession (r : Row) : Except QueryFault LockedSession := do
  let id ← r.required Cell.uuid? "id"
  let userId ← r.required Cell.uuid? "user_id"
  let expiresAt ← r.required Cell.time? "expires_at"
  let revokedAt ← r.optional Cell.time? "revoked_at"
  return ⟨⟨id⟩, ⟨userId⟩, expiresAt, revokedAt⟩

/-! ## Users -/

/-- Adds a user. -/
def createUser (u : User) : Act Database UserFault User := do
  match ← Database.attempt (Database.execute (.insertUser (.ofUser u))) with
  | .ok _ => return u
  | .error (.server fault) =>
    -- a duplicate identifier breaks a rule as well, but says nothing about the address
    if fault.code = Database.ServerFault.duplicateCode ∧ fault.broken = some "users_email_key" then
      Act.refuse (.emailTaken u.email.text)
    else Act.refuse (userFault (.server fault))
  | .error fault => Act.refuse (userFault fault)

/-- The user that a statement finds. -/
def findUser (s : Database.Statement) : Act Database UserFault (Option User) := do
  match ← Database.mapFault userFault (Database.fetch s) with
  | none => return none
  | some row => return some (← Act.ofExcept (readUser row))

/-- The user with an identifier. -/
def findUserById (id : UserId) : Act Database UserFault (Option User) := findUser (.userById id)

/-- The user with an address. -/
def findUserByEmail (email : Email) : Act Database UserFault (Option User) :=
  findUser (.userByEmail email.text)

/-! ## Sessions -/

/-- Executes a statement on sessions. -/
def execute (s : Database.Statement) : Act Database SessionFault Database.Outcome :=
  Database.mapFault sessionFault (Database.execute s)

/-- The row that a statement on sessions finds. -/
def fetch (s : Database.Statement) : Act Database SessionFault (Option Row) :=
  Database.mapFault sessionFault (Database.fetch s)

/-- Adds a session, whose identifier is drawn from the random source. -/
def createSession (userId : UserId) (secret : String) (expiresAt : Instant) (client : Client)
    (rotatedFrom : Option SessionId) : Act Database SessionFault SessionId := do
  let id ← SessionId.mk <$> Act.draw Uuid.random?
  let row := NewSession.of id userId (RefreshSecret.digest secret) expiresAt client rotatedFrom
  let _ ← execute (.insertSession row)
  return id

/-- The session of a secret and its owner. A session whose owner cannot be loaded is rejected. -/
def validateSession (secret : String) : Act Database SessionFault (Session × User) := do
  let some row ← fetch (.activeSession (RefreshSecret.digest secret)) | Act.refuse .unknown
  let session ← Act.ofExcept ((readSession row).mapError sessionFault)
  match ← Database.attempt (findUserById session.userId) with
  | .ok (some user) => return (session, user)
  -- the caller learns no more than that the secret is of no use
  | .ok none => Act.refuse .unknown
  | .error fault =>
    Act.report ⟨.warn, "Session owner lookup failed",
      [("session_id", .text session.id.toText), ("error", .text fault.message)]⟩
    Act.refuse .unknown

/-- Replaces a locked session by one for a new secret. -/
def replaceSession (old : LockedSession) (newSecret : String) (expiresAt : Instant)
    (client : Client) : Act Database SessionFault (Except SessionFault RotatedSession) := do
  let now ← Act.now
  match SessionState.at old.expiresAt old.revokedAt now with
  | .revoked => return .error .revoked
  | .expired => return .error .expired
  | .active =>
    let revoked ← execute (.revokeById old.id now.towardStorageEpoch)
    -- nobody can have come in between while the row is locked; that the count is looked at is a
    -- second line of defence
    if revoked.changed = 0 then return .error .revoked
    let id ← createSession old.userId newSecret expiresAt client (some old.id)
    -- an orphaned session is found out only behind the writes, which a fault that is decided for
    -- takes back
    match ← Database.attempt (findUserById old.userId) with
    | .ok (some user) => return .ok ⟨id, user⟩
    | .ok none => return .error .unknown
    | .error fault => return .error (.database fault.message)

/-- Revokes the session of an old secret and adds one for a new secret. -/
def rotateSession (lockTimeout : Duration) (oldSecret newSecret : String) (expiresAt : Instant)
    (client : Client) : Act Database SessionFault RotatedSession :=
  Database.inTransaction sessionFault do
    let _ ← execute (.limitLockWait lockTimeout)
    match ← fetch (.lockSession (RefreshSecret.digest oldSecret)) with
    | none => return .error .unknown
    | some row =>
      let old ← Act.ofExcept ((readLockedSession row).mapError sessionFault)
      replaceSession old newSecret expiresAt client

/-- Revokes the session of a secret. -/
def revokeSession (secret : String) : Act Database SessionFault Unit := do
  let revoked ← execute (.revokeByDigest (RefreshSecret.digest secret))
  if revoked.changed = 0 then Act.refuse .unknown

/-- Revokes all sessions of a user and counts them. -/
def revokeAllSessions (userId : UserId) : Act Database SessionFault Nat :=
  return (← execute (.revokeByUser userId)).changed

/-- How long a rotation waits for a locked row, unless it is told otherwise. -/
def defaultLockTimeout : Duration := .ofSeconds 5

/-- The store in the tables. -/
def store (lockTimeout : Duration) : Store Database where
  createUser
  findUserByEmail
  createSession
  rotateSession := rotateSession lockTimeout
  revokeSession
  revokeAllSessions

end SessionAuth.Relational
