import SessionAuth.Encoding.Base64
import SessionAuth.Hash.Sha256
import SessionAuth.Random
import SessionAuth.Text.Utf8

/-!
Refresh secrets: thirty-two random bytes in URL-safe Base64. Only their digests are stored.
-/

set_option autoImplicit false

namespace SessionAuth.RefreshSecret

/-- Random bytes of a secret. -/
def byteCount : Nat := 32

/-- The secret of random bytes. -/
def ofBytes (b : Bytes) : String := Base64.toText .urlSafe b

/-- Draws a secret; missing where the source fails. -/
def draw? (r : RandomSource) : Option (String × RandomSource) :=
  (r.draw? byteCount).map fun (b, r) => (ofBytes b, r)

/-- The digest under which a secret is stored. -/
def digest (secret : String) : Bytes := Sha256.digest (Utf8.ofString secret)

/-- What is reported where no secret could be drawn. -/
def drawFailedMessage : String := "Secure random source unavailable: no bytes left"

end SessionAuth.RefreshSecret
