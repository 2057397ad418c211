import SessionAuth.Config.Format
import SessionAuth.Config.Settings

/-!
Reading settings from a notation: sections with fields, all of which have to be there.
-/

set_option autoImplicit false

namespace SessionAuth.Config

variable {ν ε : Type}

/-- Reads how the database is reached. -/
def DatabaseSettings.read (f : Format ν ε) (v : ν) : Except ε DatabaseSettings := do
  let fields ← f.record "DatabaseConfig" 7 v
  let url ← fields.read f.text 0 "url"
  let maxConnections ← fields.read (f.natural 32) 1 "max_connections"
  let minConnections ← fields.read (f.natural 32) 2 "min_connections"
  let acquireTimeout ← fields.read (f.natural 64) 3 "acquire_timeout_secs"
  let idleTimeout ← fields.read (f.natural 64) 4 "idle_timeout_secs"
  let maxLifetime ← fields.read (f.natural 64) 5 "max_lifetime_secs"
  let initialPingTimeout ← fields.read (f.natural 64) 6 "initial_ping_timeout_ms"
  return {
    url := ← f.require "url" url
    maxConnections := ← f.require "max_connections" maxConnections
    minConnections := ← f.require "min_connections" minConnections
    acquireTimeout := .ofSeconds (← f.require "acquire_timeout_secs" acquireTimeout)
    idleTimeout := .ofSeconds (← f.require "idle_timeout_secs" idleTimeout)
    maxLifetime := .ofSeconds (← f.require "max_lifetime_secs" maxLifetime)
    initialPingTimeout :=
      .ofMillis (← f.require "initial_ping_timeout_ms" initialPingTimeout) }

/-- Reads the port that is served. -/
def readHttpPort (f : Format ν ε) (v : ν) : Except ε Nat := do
  let fields ← f.record "ServerConfig" 1 v
  f.require "http_port" (← fields.read (f.natural 16) 0 "http_port")

/-- Reads how access tokens are signed. -/
def TokenSettings.read (f : Format ν ε) (v : ν) : Except ε TokenSettings := do
  let fields ← f.record "JwtConfig" 3 v
  let secret ← fields.read f.text 0 "secret"
  let issuer ← fields.read f.text 1 "issuer"
  let accessLifetime ← fields.read (f.natural 64) 2 "access_ttl_secs"
  return {
    secret := ← f.require "secret" secret
    issuer := ← f.require "issuer" issuer
    accessLifetime := .ofSeconds (← f.require "access_ttl_secs" accessLifetime) }

/-- Reads how long sessions last. -/
def SessionSettings.read (f : Format ν ε) (v : ν) : Except ε SessionSettings := do
  let fields ← f.record "SessionConfig" 3 v
  let refreshLifetime ← fields.read (f.natural 64) 0 "refresh_ttl_secs"
  let operationTimeout ← fields.read (f.natural 64) 1 "operation_timeout_ms"
  let lockTimeout ← fields.read (f.natural 64) 2 "lock_timeout_ms"
  return {
    refreshLifetime := .ofSeconds (← f.require "refresh_ttl_secs" refreshLifetime)
    operationTimeout := .ofMillis (← f.require "operation_timeout_ms" operationTimeout)
    lockTimeout := .ofMillis (← f.require "lock_timeout_ms" lockTimeout) }

/-- Reads what hashing a password costs. -/
def PasswordSettings.read (f : Format ν ε) (v : ν) : Except ε PasswordSettings := do
  let fields ← f.record "PasswordConfig" 4 v
  let memoryKib ← fields.read (f.natural 32) 0 "memory_kib"
  let passes ← fields.read (f.natural 32) 1 "time_cost"
  let lanes ← fields.read (f.natural 32) 2 "parallelism"
  let maxConcurrent ← fields.read (f.natural 64) 3 "max_concurrent"
  return {
    cost := {
      memoryKib := ← f.require "memory_kib" memoryKib
      passes := ← f.require "time_cost" passes
      lanes := ← f.require "parallelism" lanes }
    maxConcurrent := ← f.require "max_concurrent" maxConcurrent }

/-- Reads all settings. -/
def Settings.read (f : Format ν ε) (v : ν) : Except ε Settings := do
  let fields ← f.record "Config" 5 v
  let database ← fields.read (DatabaseSettings.read f) 0 "database"
  let httpPort ← fields.read (readHttpPort f) 1 "server"
  let token ← fields.read (TokenSettings.read f) 2 "jwt"
  let session ← fields.read (SessionSettings.read f) 3 "session"
  let password ← fields.read (PasswordSettings.read f) 4 "password"
  return {
    database := ← f.require "database" database
    httpPort := ← f.require "server" httpPort
    token := ← f.require "jwt" token
    session := ← f.require "session" session
    password := ← f.require "password" password }

end SessionAuth.Config
