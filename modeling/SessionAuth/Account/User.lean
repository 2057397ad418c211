import SessionAuth.Account.Email
import SessionAuth.Time.Instant
import SessionAuth.Uuid

/-!
Users: an identifier, an address in normal form and the hash of a password.
-/

set_option autoImplicit false

namespace SessionAuth

/-- The identifier of a user. -/
structure UserId where
  uuid : Uuid
  deriving DecidableEq, Repr

namespace UserId

/-- The text of an identifier. -/
def toText (u : UserId) : String := u.uuid.toText

/-- How an identifier is shown in messages. -/
def shown (u : UserId) : String := "UserId(" ++ u.toText ++ ")"

/-- What is said about a text that is no identifier. -/
def invalidMessage (flaw : Uuid.Flaw) : String := "Invalid UUID format: " ++ flaw.message

/-- Reads an identifier. -/
def parse (s : String) : Except Uuid.Flaw UserId := (Uuid.parse s).map UserId.mk

end UserId

/-- A user. -/
structure User where
  id : UserId
  email : Email
  passwordHash : String
  emailVerifiedAt : Option Instant
  createdAt : Instant
  updatedAt : Instant
  deriving DecidableEq, Repr

/-- A new user with an identifier drawn from the source; missing where the source fails. -/
def User.register? (email : Email) (passwordHash : String) (now : Instant) (r : RandomSource) :
    Option (User × RandomSource) :=
  (Uuid.random? r).map fun (id, r) => (⟨⟨id⟩, email, passwordHash, none, now, now⟩, r)

/-- Why an operation on users fails. -/
inductive UserFault where
  | invalidId (flaw : Uuid.Flaw)
  | invalidEmail (flaw : Email.Flaw)
  | passwordTooShort (message : String)
  | notFound (who : String)
  | emailTaken (email : String)
  | database (message : String)
  deriving DecidableEq, Repr

/-- The wording of a cause. -/
def UserFault.message : UserFault → String
  | .invalidId flaw => "Invalid user ID: " ++ UserId.invalidMessage flaw
  | .invalidEmail flaw => "Invalid email: " ++ flaw.message
  | .passwordTooShort message => "Invalid password: " ++ message
  | .notFound who => "User not found: " ++ who
  | .emailTaken email => "Email already exists: " ++ email
  | .database message => "Database error: " ++ message

end SessionAuth
