import SessionAuth.Config.Settings
import SessionAuth.Database.Server
import SessionAuth.Decimal.Word
import SessionAuth.Network.Url

/-!
Connecting to the database. Connections are made when they are needed, so that a first question is put
to the database to see whether it is there.

There are two ways in which no answer is noticed: waiting for a connection ends with a fault, and
waiting for the answer as a whole ends the waiting. The shorter time decides.
-/

set_option autoImplicit false

namespace SessionAuth.Database

open Config (DatabaseSettings)

/-! ## Addresses of databases -/

/-- The ways of using an encrypted connection. -/
def encryptionModes : List String :=
  ["disable", "allow", "prefer", "require", "verify-ca", "verify-full"]

/-- Whether a number is written that is below a limit. -/
def isNumberBelow (limit : Nat) (s : String) : Bool :=
  (Decimal.readSigned? s.toList).any (· < limit)

/-- Whether a parameter of an address has a value that can be used. -/
def acceptsParameter (name value : String) : Bool :=
  match name with
  | "sslmode" | "ssl-mode" => encryptionModes.contains (value.map Char.toLower)
  | "statement-cache-capacity" => isNumberBelow Decimal.wordLimit value
  | "hostaddr" => (IpAddress.parse? value).isSome
  | "port" => isNumberBelow 65536 value
  | _ => true

/-- Whether an address can be one of a database. A host that starts with a slash is a path. -/
def isDatabaseUrl (url : String) : Bool :=
  match Url.parse? url with
  | none => false
  | some u =>
    let isPath := (Url.decodeBytes u.host).head? == some (UInt8.ofNat 47)
    (Url.decode? u.user).isSome && (Url.decode? u.password).isSome &&
      (!isPath || (Url.decode? u.host).isSome) &&
      u.parameters.all fun p => acceptsParameter p.1 p.2

/-! ## Connecting -/

/-- Why there is no connection. -/
inductive ConnectFault where
  | pool (least most : Nat)
  | invalidUrl
  | pingFailed
  | pingTimedOut
  deriving DecidableEq, Repr

/-- The wording of a cause. -/
def ConnectFault.message : ConnectFault → String
  | .pool least most => Config.poolMessage least most
  | .invalidUrl => "invalid database url"
  | .pingFailed => "initial database ping failed"
  | .pingTimedOut => "initial database ping timed out"

/-- What a missing answer leads to. -/
def noAnswer (s : DatabaseSettings) : ConnectFault :=
  if s.initialPingTimeout.nanoseconds < s.acquireTimeout.nanoseconds then .pingTimedOut
  else .pingFailed

/-- The first question. A pool without connections never gets an answer. -/
def firstPing (s : DatabaseSettings) : Act Database ConnectFault Unit := fun w =>
  match (if s.maxConnections = 0 then Act.stall else ping) w with
  | (.ok (), w) => (.ok (), w)
  | (.error (.refused _), w) => (.error (.refused .pingFailed), w)
  | (.error .stalled, w) => (.error (.refused (noAnswer s)), w)
  | (.error .panicked, w) => (.error .panicked, w)

/-- Connects to the database. -/
def connect (s : DatabaseSettings) : Act Database ConnectFault Unit := do
  if s.maxConnections < s.minConnections then
    Act.refuse (.pool s.minConnections s.maxConnections)
  if !isDatabaseUrl s.url then Act.refuse .invalidUrl
  firstPing s
  Act.report ⟨.info, "Database connection pool created",
    [("max_connections", .count s.maxConnections), ("min_connections", .count s.minConnections),
      ("database", .text "postgresql")]⟩

end SessionAuth.Database
