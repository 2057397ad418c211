import SessionAuth.Password.Policy
import SessionAuth.Password.Pool
import SessionAuth.Service.Fault
import SessionAuth.Service.Tokens
import SessionAuth.Session.Secret
import SessionAuth.Store.Store
import SessionAuth.Token.Signer

/-!
The service: registering, logging in, refreshing, validating and logging out.

Each operation checks its arguments before it draws a random byte or calls the store. A login prepares
everything that can fail before it stores the session. Where an address is unknown, the password is
checked against a hash kept for this purpose, so that it takes as long as where it is known.
-/

set_option autoImplicit false

namespace SessionAuth

/-- What a service is made of: a store, a signer of access tokens and its settings. -/
structure Service (σ : Type) where
  store : Store σ
  signer : TokenSigner
  settings : AuthSettings

/-- What changes while a service runs: its surroundings, its pool, and the hash that passwords for
unknown addresses are checked against, once there is one. -/
structure ServiceState (σ : Type) where
  world : World σ
  pool : HashingPool
  dummyHash : Option String

/-- An operation of the service. -/
abbrev Serve (σ ε α : Type) := ExceptT (Failure ε) (StateM (ServiceState σ)) α

namespace Serve

variable {σ ε α : Type}

/-- Acts in the surroundings of the service. -/
def act (a : Act σ ε α) : Serve σ ε α := fun s =>
  let (result, world) := a s.world
  (result, { s with world })

/-- Fails with a fault. -/
def refuse (fault : ε) : Serve σ ε α := throw (.refused fault)

/-- Reports an event. -/
def report (e : Event) : Serve σ ε Unit := act (Act.report e)

/-- Hashes a password in the pool. -/
def hash (password : String) : Serve σ ε (Except PasswordFault String) := fun s =>
  match s.pool.hash? password s.world.random with
  | some (result, pool, random) => (.ok result, { s with pool, world := { s.world with random } })
  | none => (.error .stalled, s)

/-- Checks a password in the pool. -/
def verify (password encoded : String) : Serve σ ε (Except PasswordFault Unit) := fun s =>
  match s.pool.verify? password encoded with
  | some (result, pool) => (.ok result, { s with pool })
  | none => (.error .stalled, s)

end Serve

namespace Service

variable {σ ε α : Type}

/-! ## Events -/

/-- An event with the identifier of a user. -/
def userEvent (level : Level) (message : String) (u : UserId) : Event :=
  ⟨level, message, [("user_id", .text u.toText)]⟩

/-- An event with the identifiers of a user and a session. -/
def sessionEvent (message : String) (u : UserId) (s : SessionId) : Event :=
  ⟨.info, message, [("user_id", .text u.toText), ("session_id", .text s.toText)]⟩

/-- An event with an error. -/
def errorEvent (message error : String) : Event := ⟨.error, message, [("error", .text error)]⟩

/-- Reports an error and fails without saying more. -/
def internal (e : Event) : Serve σ AuthFault α := do
  Serve.report e
  Serve.refuse .internal

/-! ## Parts of the operations -/

/-- Calls the store. Where it does not answer in time, that is reported and the operation fails. -/
def bounded (s : Service σ) (operation : String) (a : Act σ ε α) :
    Serve σ AuthFault (Except ε α) := do
  let state ← get
  let (result, world) := a state.world
  -- what the store has done stays done, also where it gives no answer
  set { state with world }
  match result with
  | .ok value => return .ok value
  | .error (.refused fault) => return .error fault
  | .error .stalled =>
    internal ⟨.error, "Store operation timed out", [("operation", .text operation),
      ("timeout_ms", .count s.settings.operationTimeout.millis)]⟩
  | .error .panicked => throw .panicked

/-- What an operation fails with when the store of sessions does. -/
def sessionFault (operation : String) (fault : SessionFault) : Serve σ AuthFault α :=
  if fault.isRejection then do
    -- the caller is not told which kind of rejection it was
    Serve.report ⟨.warn, "Refresh token rejected",
      [("operation", .text operation), ("reason", .text fault.message)]⟩
    Serve.refuse .invalidRefreshToken
  else
    internal ⟨.error, "Session store failure",
      [("operation", .text operation), ("error", .text fault.message)]⟩

/-- Calls the store of sessions. -/
def boundedSession (s : Service σ) (operation : String) (a : Act σ SessionFault α) :
    Serve σ AuthFault α := do
  match ← s.bounded operation a with
  | .ok value => return value
  | .error fault => sessionFault operation fault

/-- Text without the white space around it, of which something has to be left. -/
def required (value field : String) : Except AuthFault String :=
  let trimmed := Text.trim value.toList
  if trimmed.isEmpty then .error (.invalidArgument (field ++ " required"))
  else .ok (String.ofList trimmed)

/-- The text of an argument that has to be there. -/
def requireArgument (value field : String) : Serve σ AuthFault String :=
  match required value field with
  | .ok text => return text
  | .error fault => Serve.refuse fault

/-- An address. -/
def requireEmail (raw : String) : Serve σ AuthFault Email := do
  match Email.parse raw with
  | .ok email => return email
  | .error flaw =>
    Serve.report ⟨.debug, "Rejected email", [("reason", .text flaw.message)]⟩
    Serve.refuse (.invalidArgument "invalid email")

/-- The password that is hashed for checking passwords of unknown addresses. -/
def dummyPassword : String := "dummy-password-for-timing-equalization"

/-- The hash for unknown addresses, made at its first use. -/
def prepareDummyHash : Serve σ AuthFault (Except PasswordFault String) := do
  match (← get).dummyHash with
  | some hash => return .ok hash
  | none =>
    let result ← Serve.hash dummyPassword
    -- a failure is not kept, so that the next login tries again
    if let .ok hash := result then modify fun s => { s with dummyHash := some hash }
    return result

/-- How a password is checked against a hash. -/
abbrev Check (σ : Type) := String → String → Serve σ AuthFault (Except PasswordFault Unit)

/-- Checks a password for an unknown address; what comes of it does not matter. -/
def equalizeUnknownUser (check : Check σ) (password : String) : Serve σ AuthFault Unit := do
  match ← prepareDummyHash with
  | .ok hash => let _ ← check password hash
  | .error fault => Serve.report (errorEvent "Failed to prepare dummy password hash" fault.message)

/-- The end of a lifetime that starts now. -/
def expiryAfter (lifetime : Duration) : Serve σ AuthFault Instant := do
  match (← get).world.now.after? lifetime with
  | some expires => return expires
  | none =>
    internal ⟨.error, "Refresh lifetime out of range", [("ttl_secs", .count lifetime.seconds)]⟩

/-- A new refresh secret. -/
def newRefreshSecret : Serve σ AuthFault String := do
  match RefreshSecret.draw? (← get).world.random with
  | some (secret, random) =>
    modify fun s => { s with world := { s.world with random } }
    return secret
  | none =>
    internal (errorEvent "Failed to generate refresh secret" RefreshSecret.drawFailedMessage)

/-- An access token for a user. -/
def mintAccess (s : Service σ) (user : User) : Serve σ AuthFault String := do
  let now := (← get).world.now
  match s.signer.mint now user.id.toText user.email.text s.settings.accessLifetime with
  | .ok (token, _) => return token
  | .error fault =>
    internal ⟨.error, "Failed to mint access token",
      [("user_id", .text user.id.toText), ("error", .text fault.message)]⟩

/-- The tokens of a user, around a given refresh secret. -/
def issue (s : Service σ) (user : User) (secret : String) (expires : Instant) :
    Serve σ AuthFault IssuedTokens := do
  return {
    userId := user.id
    accessToken := ← s.mintAccess user
    refreshToken := secret
    accessTokenSeconds := s.settings.accessLifetime.seconds
    refreshExpiresAt := expires }

/-! ## Operations -/

/-- Registers a user. -/
def register (s : Service σ) (email password : String) : Serve σ AuthFault User := do
  let email ← requireEmail email
  let some password := Password.ofText? password
    | Serve.refuse (.invalidArgument
        ("password must be at least " ++ Decimal.toText Password.leastLength ++ " characters"))
  match ← Serve.hash password.text with
  | .error fault => internal (errorEvent "Failed to hash password" fault.message)
  | .ok hash =>
    let now := (← get).world.now
    let user ← Serve.act (Act.draw (User.register? email hash now))
    match ← s.bounded "create_user" (s.store.createUser user) with
    | .ok user =>
      Serve.report (userEvent .info "User registered" user.id)
      return user
    | .error (.emailTaken _) =>
      Serve.report ⟨.warn, "Registration rejected: email already registered", []⟩
      Serve.refuse .alreadyExists
    | .error fault => internal (errorEvent "Failed to create user" fault.message)

/-- Checks the password of a user. -/
def authenticate (check : Check σ) (user : User) (password : String) :
    Serve σ AuthFault Unit := do
  match ← check password user.passwordHash with
  | .ok () => return
  | .error .mismatch =>
    Serve.report (userEvent .warn "Login rejected: password mismatch" user.id)
    Serve.refuse .invalidCredentials
  | .error .malformedHash =>
    Serve.report (userEvent .error "Stored password hash is malformed" user.id)
    Serve.refuse .invalidCredentials
  | .error fault =>
    internal ⟨.error, "Password verification failed",
      [("user_id", .text user.id.toText), ("error", .text fault.message)]⟩

/-- Opens a session for a user whose password has been checked. -/
def openSession (s : Service σ) (user : User) (client : Client) :
    Serve σ AuthFault IssuedTokens := do
  let secret ← newRefreshSecret
  let expires ← expiryAfter s.settings.refreshLifetime
  -- signing can fail, and comes before the session is there
  let tokens ← s.issue user secret expires
  let sessionId ← s.boundedSession "create_session"
    (s.store.createSession user.id secret expires client none)
  Serve.report (sessionEvent "User logged in" user.id sessionId)
  return tokens

/-- Logs a user in whose password is checked in a given way. -/
def loginWith (s : Service σ) (check : Check σ) (email password : String) (client : Client) :
    Serve σ AuthFault IssuedTokens := do
  let email ← requireEmail email
  if password.isEmpty then Serve.refuse (.invalidArgument "password required")
  match ← s.bounded "find_user_by_email" (s.store.findUserByEmail email) with
  | .error fault => internal (errorEvent "Failed to look up user" fault.message)
  | .ok none =>
    equalizeUnknownUser check password
    Serve.report ⟨.warn, "Login rejected: unknown email", []⟩
    Serve.refuse .invalidCredentials
  | .ok (some user) =>
    authenticate check user password
    s.openSession user client

/-- Logs a user in. Passwords are checked in the pool. -/
def login (s : Service σ) (email password : String) (client : Client) :
    Serve σ AuthFault IssuedTokens := s.loginWith Serve.verify email password client

/-- Exchanges a refresh secret for new tokens. The access token is signed after the rotation. -/
def refresh (s : Service σ) (refreshToken : String) (client : Client) :
    Serve σ AuthFault IssuedTokens := do
  let oldSecret ← requireArgument refreshToken "refresh_token"
  let newSecret ← newRefreshSecret
  let expires ← expiryAfter s.settings.refreshLifetime
  let rotated ← s.boundedSession "rotate_session"
    (s.store.rotateSession oldSecret newSecret expires client)
  Serve.report (sessionEvent "Refresh token rotated" rotated.user.id rotated.sessionId)
  -- the token is for the owner, who is known from the rotation only
  s.issue rotated.user newSecret expires

/-- Says whom an access token is for. -/
def validate (s : Service σ) (accessToken : String) : Serve σ AuthFault TokenIdentity := do
  let token ← requireArgument accessToken "access_token"
  match s.signer.parse (← get).world.now token with
  | .ok claims => return ⟨claims.subject, claims.email⟩
  -- a clock before 1970 is a matter of the service, not of the token
  | .error .clock => throw .panicked
  | .error flaw =>
    Serve.report flaw.event
    Serve.refuse .invalidToken

/-- Ends the session of a refresh secret. -/
def logout (s : Service σ) (refreshToken : String) : Serve σ AuthFault Unit := do
  let secret ← requireArgument refreshToken "refresh_token"
  s.boundedSession "revoke_session" (s.store.revokeSession secret)
  Serve.report ⟨.info, "Session revoked", []⟩

/-- Ends all sessions of a user and counts them. -/
def logoutAll (s : Service σ) (userId : UserId) : Serve σ AuthFault Nat := do
  let revoked ← s.boundedSession "revoke_all_sessions" (s.store.revokeAllSessions userId)
  Serve.report ⟨.info, "All sessions revoked",
    [("user_id", .text userId.toText), ("revoked", .count revoked)]⟩
  return revoked

end Service

end SessionAuth
