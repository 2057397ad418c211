import SessionAuth.Account.User
import SessionAuth.Time.Calendar

/-!
What the service hands out, and the lifetimes it goes by.
-/

set_option autoImplicit false

namespace SessionAuth

/-- Lifetimes of tokens, and how long the store may take to answer. -/
structure AuthSettings where
  accessLifetime : Duration := .ofSeconds 900
  refreshLifetime : Duration := .ofSeconds 604800
  operationTimeout : Duration := .ofMillis 10000
  deriving DecidableEq, Repr

/-- An access token and a refresh secret. -/
structure IssuedTokens where
  userId : UserId
  accessToken : String
  refreshToken : String
  /-- The whole seconds of the access lifetime. -/
  accessTokenSeconds : Nat
  refreshExpiresAt : Instant
  deriving DecidableEq, Repr

/-- How issued tokens are shown: without the tokens. -/
def IssuedTokens.shown (t : IssuedTokens) : String :=
  "IssuedTokens \x7b user_id: " ++ t.userId.shown ++ ", access_token_ttl_seconds: " ++
    Decimal.toText t.accessTokenSeconds ++ ", refresh_expires_at: " ++
    t.refreshExpiresAt.toText ++ ", .. \x7d"

/-- Whom an access token is for. -/
structure TokenIdentity where
  userId : String
  email : String
  deriving DecidableEq, Repr

end SessionAuth
