import SessionAuth.Database.Statement

/-!
The tables of users and sessions, and what each statement does to them.

A statement is carried out as a whole or refused. Inserting checks the constraints in a fixed order:
first that identifiers and then that addresses or digests are not there yet, then that what is
referred to is there.
-/

set_option autoImplicit false

namespace SessionAuth.Database

/-- A row of the table of sessions. The internet address is whatever text the table holds. -/
structure SessionRow where
  id : SessionId
  userId : UserId
  digest : Bytes
  createdAt : Instant
  expiresAt : Instant
  revokedAt : Option Instant
  userAgent : Option String
  ip : Option String
  rotatedFrom : Option SessionId
  deriving DecidableEq, Repr

/-- The tables, in the order of insertion. -/
structure Tables where
  users : List UserRow := []
  sessions : List SessionRow := []
  /-- Whether a new session has to refer to rows that are there. -/
  checksReferences : Bool := true
  deriving DecidableEq, Repr

/-- What a statement returns. -/
structure Outcome where
  rows : List Row
  /-- How many rows were changed. -/
  changed : Nat
  deriving DecidableEq, Repr

/-- No rows, and none changed. -/
def Outcome.nothing : Outcome := ⟨[], 0⟩

/-- The outcome with other cells in some columns of its rows. -/
def Outcome.patch (cells : Row) (o : Outcome) : Outcome :=
  { o with rows := o.rows.map (Row.patch cells) }

/-! ## Rows as they are returned -/

/-- A user. -/
def UserRow.cells (u : UserRow) : Row :=
  [("id", .uuid u.id.uuid), ("email", .text u.email), ("password_hash", .text u.passwordHash),
    ("email_verified_at", .ofOption .time u.emailVerifiedAt), ("created_at", .time u.createdAt),
    ("updated_at", .time u.updatedAt)]

/-- A session. -/
def SessionRow.cells (s : SessionRow) : Row :=
  [("id", .uuid s.id.uuid), ("user_id", .uuid s.userId.uuid),
    ("refresh_token_hash", .bytes s.digest), ("created_at", .time s.createdAt),
    ("expires_at", .time s.expiresAt), ("revoked_at", .ofOption .time s.revokedAt),
    ("user_agent", .ofOption .text s.userAgent), ("ip", .ofOption .text s.ip),
    ("rotated_from", .ofOption (fun p => .uuid p.uuid) s.rotatedFrom)]

/-- What a rotation has to know of a session. -/
def SessionRow.lockedCells (s : SessionRow) : Row :=
  [("id", .uuid s.id.uuid), ("user_id", .uuid s.userId.uuid),
    ("expires_at", .time s.expiresAt), ("revoked_at", .ofOption .time s.revokedAt)]

/-- The row that is added for a new session. -/
def NewSession.row (s : NewSession) (now : Instant) : SessionRow where
  id := s.id
  userId := s.userId
  digest := s.digest
  createdAt := now
  expiresAt := s.expiresAt
  revokedAt := none
  userAgent := s.userAgent
  ip := s.ip
  rotatedFrom := s.rotatedFrom

namespace Tables

/-! ## Changes -/

/-- Adds a user. -/
def insertUser (t : Tables) (u : UserRow) : Except ServerFault Tables :=
  if t.users.any (·.id == u.id) then .error (.duplicate "users_pkey")
  else if t.users.any (·.email == u.email) then .error (.duplicate "users_email_key")
  else .ok { t with users := t.users ++ [u] }

/-- Whether a new session refers to a session that is not there. -/
def lacksPredecessor (t : Tables) (s : NewSession) : Bool :=
  s.rotatedFrom.any fun p => !t.sessions.any (·.id == p)

/-- Adds a session. -/
def insertSession (t : Tables) (s : NewSession) (now : Instant) : Except ServerFault Tables :=
  if t.sessions.any (·.id == s.id) then .error (.duplicate "sessions_pkey")
  else if t.sessions.any (·.digest == s.digest) then
    .error (.duplicate "sessions_refresh_token_hash_key")
  else if t.checksReferences && !t.users.any (·.id == s.userId) then
    .error (.dangling "sessions_user_id_fkey")
  else if t.checksReferences && t.lacksPredecessor s then
    .error (.dangling "sessions_rotated_from_fkey")
  else .ok { t with sessions := t.sessions ++ [s.row now] }

/-- Revokes the sessions that pass a test and are not revoked yet, and counts them. -/
def revoke (t : Tables) (test : SessionRow → Bool) (moment : Instant) : Outcome × Tables :=
  let open? := fun (s : SessionRow) => test s && s.revokedAt.isNone
  let revoked := fun (s : SessionRow) =>
    if open? s then { s with revokedAt := some moment } else s
  (⟨[], t.sessions.countP open?⟩, { t with sessions := t.sessions.map revoked })

/-! ## Statements -/

/-- The rows that pass a test. -/
def select {α : Type} (rows : List α) (test : α → Bool) (cells : α → Row) : Outcome :=
  ⟨(rows.filter test).map cells, 0⟩

/-- Carries out a statement at a moment. Those that open and close transactions change no rows. -/
def run (t : Tables) (now : Instant) : Statement → Except ServerFault (Outcome × Tables)
  | .start | .commit | .rollback | .ping | .limitLockWait _ => .ok (.nothing, t)
  | .insertUser u => (t.insertUser u).map fun t => (⟨[], 1⟩, t)
  | .userById id => .ok (select t.users (·.id == id) UserRow.cells, t)
  | .userByEmail email => .ok (select t.users (·.email == email) UserRow.cells, t)
  | .insertSession s => (t.insertSession s now).map fun t => (⟨[], 1⟩, t)
  | .activeSession digest =>
    let active := fun (s : SessionRow) =>
      s.digest == digest && s.revokedAt.isNone && decide (now < s.expiresAt)
    .ok (select t.sessions active SessionRow.cells, t)
  | .lockSession digest => .ok (select t.sessions (·.digest == digest) SessionRow.lockedCells, t)
  | .revokeById id moment => .ok (t.revoke (·.id == id) moment)
  | .revokeByDigest digest => .ok (t.revoke (·.digest == digest) now)
  | .revokeByUser userId => .ok (t.revoke (·.userId == userId) now)

end Tables

end SessionAuth.Database
