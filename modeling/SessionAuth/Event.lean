/-!
Events: what the service reports about its own work while it runs.
-/

set_option autoImplicit false

namespace SessionAuth

/-- How grave an event is. -/
inductive Level where
  | error
  | warn
  | info
  | debug
  deriving DecidableEq, Repr

/-- What an event says about one thing. -/
inductive Detail where
  | count (n : Nat)
  | text (s : String)
  deriving DecidableEq, Repr

/-- A message with details. -/
structure Event where
  level : Level
  message : String
  details : List (String × Detail)
  deriving DecidableEq, Repr

end SessionAuth
