import SessionAuth.Decimal.Digits

/-!
Which passwords are accepted at registration: those of at least twelve characters, counted as
characters and not as bytes. An accepted password is never shown.
-/

set_option autoImplicit false

namespace SessionAuth

/-- A password that was accepted at registration. -/
structure Password where
  text : String
  long : 12 ≤ text.length
  deriving DecidableEq

namespace Password

/-- Fewest characters. -/
def leastLength : Nat := 12

/-- The password, if it is long enough. -/
def ofText? (s : String) : Option Password :=
  if h : leastLength ≤ s.length then some ⟨s, h⟩ else none

/-- How a password is shown. -/
def shown : String := "Password(<redacted>)"

/-- What is said about a password that is too short. -/
def tooShortMessage : String :=
  "Password must be at least " ++ Decimal.toText leastLength ++ " characters"

end Password

end SessionAuth
