import SessionAuth.Json.Record
import SessionAuth.Time.Instant

/-!
The claims of an access token: whom it is for, who issued it, and when it was issued and expires.
All five have to be there when claims are read.
-/

set_option autoImplicit false

namespace SessionAuth

/-- What an access token says. Times are in whole seconds. -/
structure Claims where
  subject : String
  email : String
  issuer : String
  issuedAt : Int
  expiresAt : Int
  deriving DecidableEq, Repr

namespace Claims

/-- Claims for a user between two instants. -/
def forUser (subject email issuer : String) (issued expires : Instant) : Claims :=
  ⟨subject, email, issuer, issued.seconds, expires.seconds⟩

/-- The expiry as an instant, if it has a date. -/
def expiry? (c : Claims) : Option Instant := (Instant.ofSeconds c.expiresAt).dated?

/-- Claims have expired as soon as the expiry is not in the future. -/
def isExpired (c : Claims) (now : Int) : Bool := c.expiresAt ≤ now

/-! ## Writing -/

/-- Claims as a JSON object. -/
def toJson (c : Claims) : Json.Value :=
  .object [("sub", .text c.subject), ("email", .text c.email), ("iss", .text c.issuer),
    ("iat", .int c.issuedAt), ("exp", .int c.expiresAt)]

/-! ## Reading -/

/-- Claims of which not all have been read. -/
structure Draft where
  subject : Option String := none
  email : Option String := none
  issuer : Option String := none
  issuedAt : Option Int := none
  expiresAt : Option Int := none

/-- The claims, if all have been read; otherwise the first one that is missing. -/
def Draft.finish (d : Draft) : Except Json.Mismatch Claims := do
  return {
    subject := ← Json.require "sub" d.subject
    email := ← Json.require "email" d.email
    issuer := ← Json.require "iss" d.issuer
    issuedAt := ← Json.require "iat" d.issuedAt
    expiresAt := ← Json.require "exp" d.expiresAt }

/-- How claims are read. -/
def record : Json.Record Draft Claims where
  expected := "struct Claims"
  expectedList := "struct Claims with 5 elements"
  fields := [
    .text "sub" (·.subject) fun d s => { d with subject := some s },
    .text "email" (·.email) fun d s => { d with email := some s },
    .text "iss" (·.issuer) fun d s => { d with issuer := some s },
    .int64 "iat" (·.issuedAt) fun d n => { d with issuedAt := some n },
    .int64 "exp" (·.expiresAt) fun d n => { d with expiresAt := some n }]
  empty := {}
  finish := Draft.finish

/-- Reads claims from a whole document. -/
def parse (input : Bytes) : Except Json.Fault Claims := Json.readAll record.read input

end Claims

end SessionAuth
