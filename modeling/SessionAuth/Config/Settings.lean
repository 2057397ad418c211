import SessionAuth.Decimal.Digits
import SessionAuth.Password.Cost
import SessionAuth.Text.Blank
import SessionAuth.Text.Quoted
import SessionAuth.Text.Utf8
import SessionAuth.Time.Instant

/-!
The settings of the whole service, and which of them are refused.

Settings are checked in a fixed order and the first objection counts. What is checked would make the
service insecure or of no use: a short secret, no issuer, lifetimes of nothing, no time for the store
to answer, or a pool that has to hold more connections than it may.
-/

set_option autoImplicit false

namespace SessionAuth.Config

/-- How the database is reached. -/
structure DatabaseSettings where
  url : String
  maxConnections : Nat
  minConnections : Nat
  /-- How long to wait for a connection. -/
  acquireTimeout : Duration
  idleTimeout : Duration
  maxLifetime : Duration
  /-- How long the database may take for the first answer. -/
  initialPingTimeout : Duration
  deriving DecidableEq, Repr

/-- How access tokens are signed. -/
structure TokenSettings where
  secret : String
  issuer : String
  accessLifetime : Duration
  deriving DecidableEq, Repr

/-- How these settings are shown: without the secret. -/
def TokenSettings.shown (s : TokenSettings) : String :=
  "JwtConfig \x7b secret: \"<redacted>\", issuer: " ++ Text.quoted s.issuer ++
    ", access_ttl_secs: " ++ Decimal.toText s.accessLifetime.seconds ++ " \x7d"

/-- How long sessions last, and how long their store may take. -/
structure SessionSettings where
  refreshLifetime : Duration
  operationTimeout : Duration
  lockTimeout : Duration
  deriving DecidableEq, Repr

/-- What hashing a password costs, and how often it is done at once. -/
structure PasswordSettings where
  cost : HashCost
  maxConcurrent : Nat
  deriving DecidableEq, Repr

/-- All settings. -/
structure Settings where
  database : DatabaseSettings
  httpPort : Nat
  token : TokenSettings
  session : SessionSettings
  password : PasswordSettings
  deriving DecidableEq, Repr

/-! ## Objections -/

/-- Fewest bytes of a secret. -/
def leastSecretLength : Nat := 32

/-- Why settings are refused. -/
inductive Objection where
  | shortSecret
  | noIssuer
  | noLifetime
  | noOperationTime
  | tooManyKept (least most : Nat)
  deriving DecidableEq, Repr

/-- What is said of a pool that has to hold more connections than it may. -/
def poolMessage (least most : Nat) : String :=
  "database.min_connections (" ++ Decimal.toText least ++
    ") exceeds database.max_connections (" ++ Decimal.toText most ++ ")"

/-- The wording of an objection. -/
def Objection.message : Objection → String
  | .shortSecret =>
    "jwt.secret must be at least " ++ Decimal.toText leastSecretLength ++ " bytes"
  | .noIssuer => "jwt.issuer must not be empty"
  | .noLifetime => "token lifetimes must be non-zero"
  | .noOperationTime => "session.operation_timeout_ms must be non-zero"
  | .tooManyKept least most => poolMessage least most

/-- The first objection to settings. -/
def Settings.objection? (s : Settings) : Option Objection :=
  if Utf8.size s.token.secret < leastSecretLength then some .shortSecret
  else if (Text.trim s.token.issuer.toList).isEmpty then some .noIssuer
  else if s.token.accessLifetime = ⟨0⟩ ∨ s.session.refreshLifetime = ⟨0⟩ then some .noLifetime
  else if s.session.operationTimeout = ⟨0⟩ then some .noOperationTime
  else if s.database.maxConnections < s.database.minConnections then
    some (.tooManyKept s.database.minConnections s.database.maxConnections)
  else none

/-- Settings to which there is no objection. -/
def Settings.check (s : Settings) : Except Objection Settings :=
  s.objection?.elim (.ok s) .error

end SessionAuth.Config
