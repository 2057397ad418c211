import SessionAuth.Http.Body
import SessionAuth.Http.Envelope
import SessionAuth.Service.Service

/-!
Which request leads to which operation, and how its answer is put into a response.

Ending all sessions of a user is the one route that needs a bearer token, which is checked before
anything else, the method included. A client of another origin may ask on any path what it may do.
-/

set_option autoImplicit false

namespace SessionAuth.Http

/-- The service, and how the health of its database is checked, if it has one. -/
structure Api (σ : Type) where
  service : Service σ
  ping : Option (Act σ String Unit)

/-- The routes. -/
inductive Route where
  | health
  | register
  | login
  | refresh
  | validate
  | logout
  | logoutAll
  deriving DecidableEq, Repr

/-- The paths of the routes. -/
def Route.paths : List (String × Route) :=
  [("/health", .health), ("/api/auth/register", .register), ("/api/auth/login", .login),
    ("/api/auth/refresh", .refresh), ("/api/auth/validate", .validate),
    ("/api/auth/logout", .logout), ("/api/auth/logout-all", .logoutAll)]

/-- The methods of a route. -/
def Route.methods : Route → List String
  | .health => ["GET", "HEAD"]
  | _ => ["POST"]

/-- The methods of a route, as a header lists them. -/
def Route.allow (route : Route) : String := String.intercalate "," route.methods

variable {σ : Type}

/-- Answering does not refuse: what the service refuses becomes a response. -/
abbrev Answering (σ α : Type) := Serve σ Empty α

/-- Runs an operation and turns a fault into its result. -/
def attempt {ε α : Type} (a : Serve σ ε α) : Answering σ (Except ε α) := fun s =>
  match a s with
  | (.ok value, s) => (.ok (.ok value), s)
  | (.error (.refused fault), s) => (.ok (.error fault), s)
  | (.error .stalled, s) => (.error .stalled, s)
  | (.error .panicked, s) => (.error .panicked, s)

/-- The response to an operation: its value in the envelope, or its fault. -/
def respond {α : Type} (status : Nat) (data : α → Json.Value) (a : Serve σ AuthFault α) :
    Answering σ Response := do
  match ← attempt a with
  | .ok value => return envelope status (data value)
  | .error fault => return ofFault fault

/-- The response to an operation on a body, if the body can be read. -/
def withBody {τ α : Type} (record : Json.Record τ α) (r : Request)
    (f : α → Answering σ Response) : Answering σ Response :=
  match readBody record r with
  | .ok body => f body
  | .error response => return response

/-! ## Data -/

/-- Most characters that are kept of the name of a client. -/
def userAgentLimit : Nat := 512

/-- What a request says about its client. -/
def clientOf (r : Request) : Client :=
  let userAgent := ((r.header? "user-agent").bind plainText?).map fun s =>
    String.ofList (s.toList.take userAgentLimit)
  ⟨userAgent.filter fun s => !s.isEmpty, r.peer⟩

/-- A new user. -/
def userData (u : User) : Json.Value :=
  .object [("user_id", .text u.id.toText), ("email", .text u.email.text),
    ("created_at", .text u.createdAt.toText)]

/-- Issued tokens. -/
def tokenData (t : IssuedTokens) : Json.Value :=
  .object [("user_id", .text t.userId.toText), ("access_token", .text t.accessToken),
    ("refresh_token", .text t.refreshToken),
    ("access_token_ttl_seconds", .nat t.accessTokenSeconds),
    ("refresh_expires_at", .text t.refreshExpiresAt.toText)]

/-- An identity. -/
def identityData (i : TokenIdentity) : Json.Value :=
  .object [("user_id", .text i.userId), ("email", .text i.email)]

/-! ## Routes -/

/-- Whether the service is well. -/
def health (api : Api σ) : Answering σ Response := do
  let well := envelope 200 (.object [("status", .text "ok")])
  match api.ping with
  | none => return well
  | some ping =>
    match ← attempt (Serve.act ping) with
    | .ok () => return well
    | .error message =>
      Serve.report ⟨.error, "Health check failed", [("error", .text message)]⟩
      return unavailable "database unavailable"

/-- The token of a request, or what is wrong with its header. -/
def bearerToken (r : Request) : Except String String :=
  match r.header? "authorization" with
  | none => .error "missing authorization header"
  | some value =>
    match plainText? value with
    | none => .error "invalid authorization header"
    | some text =>
      let l := text.toList
      -- the scheme is matched letter by letter, and case matters
      let token := Text.trim (l.drop 7)
      if l.take 7 = "Bearer ".toList ∧ !token.isEmpty then .ok (String.ofList token)
      else .error "expected authorization header: Bearer <token>"

/-- The user that a request comes from, or the response that refuses it. -/
def caller (api : Api σ) (r : Request) : Answering σ (Except Response UserId) := do
  match bearerToken r with
  | .error message => return .error (unauthorized message)
  | .ok token =>
    match ← attempt (api.service.validate token) with
    | .error fault =>
      Serve.report ⟨.warn, "Bearer token rejected", [("reason", .text fault.message)]⟩
      return .error (ofFault .invalidToken)
    | .ok identity =>
      match UserId.parse identity.userId with
      | .ok userId => return .ok userId
      | .error flaw =>
        Serve.report ⟨.error, "Failed to parse user ID from token",
          [("error", .text (UserId.invalidMessage flaw))]⟩
        return .error (ofFault .invalidToken)

/-- The response to a request with a method of the route. -/
def Route.run (api : Api σ) (r : Request) : Route → Answering σ Response
  | .health => Http.health api
  | .register => withBody (Credentials.record "RegisterRequest") r fun c =>
    respond 201 userData (api.service.register c.email c.password)
  | .login => withBody (Credentials.record "LoginRequest") r fun c =>
    respond 200 tokenData (api.service.login c.email c.password (clientOf r))
  | .refresh => withBody (singleText "RefreshRequest" "refresh_token") r fun token =>
    respond 200 tokenData (api.service.refresh token (clientOf r))
  | .validate => withBody (singleText "ValidateRequest" "access_token") r fun token =>
    respond 200 identityData (api.service.validate token)
  | .logout => withBody (singleText "LogoutRequest" "refresh_token") r fun token =>
    respond 200 (fun _ => .object [("revoked", .bool true)]) (api.service.logout token)
  | .logoutAll => do
    match ← caller api r with
    | .error response => return response
    | .ok userId =>
      respond 200 (fun n => .object [("revoked_sessions", .nat n)])
        (api.service.logoutAll userId)

/-- The response to a method that a route does not have. -/
def wrongMethod (api : Api σ) (r : Request) (route : Route) : Answering σ Response := do
  let allow := some route.allow
  match route with
  | .logoutAll =>
    match ← caller api r with
    -- who may not ask is told so, and is told the methods all the same
    | .error response => return { response with allow }
    | .ok _ => return { status := 405, allow }
  | _ => return { status := 405, allow }

/-- Answers a request. -/
def handle (api : Api σ) (r : Request) : Answering σ Response := do
  let route := Route.paths.lookup r.path
  -- a preflight is answered ahead of the routes, on paths that do not exist as well
  if r.method = "OPTIONS" then
    return { status := 200, allow := route.map Route.allow, preflight := true }
  match route with
  | none => return { status := 404 }
  | some route =>
    let response ←
      if route.methods.contains r.method then route.run api r else wrongMethod api r route
    return if r.method = "HEAD" then response.withoutBody else response

end SessionAuth.Http
