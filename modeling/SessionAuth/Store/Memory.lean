import SessionAuth.Session.Secret
import SessionAuth.Store.Store

/-!
A store in memory. It keeps a list of the calls made to it, and can be told to misbehave at a call:
to fail or not to answer, instead of doing what it is asked to do.
-/

set_option autoImplicit false

namespace SessionAuth

/-- The calls that can be made to a store. -/
inductive StoreCall where
  | createUser (id : UserId) (email : Email)
  | findUserByEmail (email : Email)
  | createSession (userId : UserId) (secret : String) (expiresAt : Instant) (client : Client)
      (rotatedFrom : Option SessionId)
  | rotateSession (oldSecret newSecret : String) (expiresAt : Instant) (client : Client)
  | revokeSession (secret : String)
  | revokeAllSessions (userId : UserId)
  deriving DecidableEq, Repr

/-- What a call does instead of its work. -/
inductive Misbehaviour (ε : Type) where
  | stall
  | fail (fault : ε)
  deriving DecidableEq, Repr

/-- What each kind of call does instead of its work, if anything. -/
structure Misbehaviours where
  createUser : Option (Misbehaviour UserFault) := none
  findUserByEmail : Option (Misbehaviour UserFault) := none
  createSession : Option (Misbehaviour SessionFault) := none
  rotateSession : Option (Misbehaviour SessionFault) := none
  revokeSession : Option (Misbehaviour SessionFault) := none
  revokeAllSessions : Option (Misbehaviour SessionFault) := none
  deriving DecidableEq, Repr

/-- Users and sessions in the order of their insertion. -/
structure MemoryStore where
  users : List User := []
  sessions : List Session := []
  /-- The calls so far, the latest one last. -/
  calls : List StoreCall := []
  misbehaviours : Misbehaviours := {}
  deriving DecidableEq, Repr

namespace MemoryStore

/-- Changes the first element that passes a test. -/
def updateFirst {α : Type} (test : α → Bool) (f : α → α) : List α → List α
  | [] => []
  | a :: rest => if test a then f a :: rest else a :: updateFirst test f rest

/-- The identifier of the next session: they are counted from one. -/
def nextSessionId (m : MemoryStore) : SessionId := ⟨Uuid.ofNat (m.sessions.length + 1)⟩

/-- The session of a secret. -/
def sessionOf? (m : MemoryStore) (secret : String) : Option Session :=
  m.sessions.find? (·.digest == RefreshSecret.digest secret)

/-- Adds a session. -/
def addSession (m : MemoryStore) (userId : UserId) (secret : String) (now expiresAt : Instant)
    (client : Client) (rotatedFrom : Option SessionId) : MemoryStore :=
  let session : Session :=
    { id := m.nextSessionId
      userId
      digest := RefreshSecret.digest secret
      createdAt := now
      expiresAt
      revokedAt := none
      client
      rotatedFrom }
  { m with sessions := m.sessions ++ [session] }

/-- Revokes the first session that passes a test. -/
def revokeFirst (m : MemoryStore) (test : Session → Bool) (now : Instant) : MemoryStore :=
  { m with sessions := updateFirst test (fun s => { s with revokedAt := some now }) m.sessions }

/-- Notes a call and misbehaves if it is told to; otherwise does the work. -/
def answering {ε α : Type} (call : StoreCall) (misbehaviour : Misbehaviours →
    Option (Misbehaviour ε)) (work : Act MemoryStore ε α) : Act MemoryStore ε α := do
  Act.modifyStore fun m => { m with calls := m.calls ++ [call] }
  match misbehaviour (← Act.store).misbehaviours with
  | some .stall => Act.stall
  | some (.fail fault) => Act.refuse fault
  | none => work

/-- The store in memory. -/
def store : Store MemoryStore where
  createUser user := answering (.createUser user.id user.email) (·.createUser) do
    let m ← Act.store
    if m.users.any (·.email == user.email) then
      Act.refuse (.emailTaken user.email.text)
    else
      Act.modifyStore fun m => { m with users := m.users ++ [user] }
      return user
  findUserByEmail email := answering (.findUserByEmail email) (·.findUserByEmail) do
    return (← Act.store).users.find? (·.email == email)
  createSession userId secret expiresAt client rotatedFrom :=
    answering (.createSession userId secret expiresAt client rotatedFrom) (·.createSession) do
      let m ← Act.store
      let now ← Act.now
      Act.modifyStore fun m => m.addSession userId secret now expiresAt client rotatedFrom
      return m.nextSessionId
  rotateSession oldSecret newSecret expiresAt client :=
    answering (.rotateSession oldSecret newSecret expiresAt client) (·.rotateSession) do
      let m ← Act.store
      let now ← Act.now
      match m.sessionOf? oldSecret with
      | none => Act.refuse .unknown
      | some old =>
        match old.state now with
        | .revoked => Act.refuse .revoked
        | .expired => Act.refuse .expired
        | .active =>
          match m.users.find? (·.id == old.userId) with
          | none => Act.refuse .unknown
          | some user =>
            Act.modifyStore fun m =>
              (m.revokeFirst (·.digest == old.digest) now).addSession user.id newSecret now
                expiresAt client (some old.id)
            return ⟨m.nextSessionId, user⟩
  revokeSession secret := answering (.revokeSession secret) (·.revokeSession) do
    let m ← Act.store
    let now ← Act.now
    let test := fun (s : Session) =>
      s.digest == RefreshSecret.digest secret && s.revokedAt.isNone
    if m.sessions.any test then Act.modifyStore fun m => m.revokeFirst test now
    else Act.refuse .unknown
  revokeAllSessions userId := answering (.revokeAllSessions userId) (·.revokeAllSessions) do
    let m ← Act.store
    let now ← Act.now
    let test := fun (s : Session) => s.userId == userId && s.revokedAt.isNone
    Act.modifyStore fun m =>
      { m with sessions := m.sessions.map fun s =>
          if test s then { s with revokedAt := some now } else s }
    return m.sessions.countP test

end MemoryStore

end SessionAuth
