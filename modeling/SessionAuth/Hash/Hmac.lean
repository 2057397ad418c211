import SessionAuth.Hash.Sha256

/-!
The keyed digest HMAC-SHA-256: the message is digested twice, each time behind the key combined with
a fixed pattern. A key longer than a block is first replaced by its digest.
-/

set_option autoImplicit false

namespace SessionAuth.Hmac

/-- Bytes in a block of the underlying digest. -/
def blockLength : Nat := 64

/-- The key brought to the length of one block, by digesting a longer one and filling up with
zeros. -/
def blockKey (key : Bytes) : Bytes :=
  let short := if key.length ≤ blockLength then key else Sha256.digest key
  short ++ List.replicate (blockLength - short.length) 0

/-- The authentication code of a message under a key. -/
def sha256 (key message : Bytes) : Bytes :=
  let k := blockKey key
  Sha256.digest (k.map (· ^^^ 0x5c) ++ Sha256.digest (k.map (· ^^^ 0x36) ++ message))

@[simp] theorem length_sha256 (key message : Bytes) : (sha256 key message).length = 32 := rfl

end SessionAuth.Hmac
