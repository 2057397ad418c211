import SessionAuth.Decimal.Extended

/-!
The values of TOML documents. A date or time is kept as its text.
-/

set_option autoImplicit false

namespace SessionAuth.Toml

/-- A value. -/
inductive Value where
  | text (value : String)
  | bool (value : Bool)
  | integer (value : Int)
  | float (value : Decimal.Extended)
  | moment (text : String)
  | list (elements : List Value)
  | table (members : List (String × Value))
  deriving Repr

end SessionAuth.Toml
