import SessionAuth.Hash.Argon2id
import SessionAuth.Password.Cost
import SessionAuth.Password.Encoded
import SessionAuth.Random

/-!
Hashing passwords and checking them against hashes.

A hasher has one cost, which it writes into every hash it makes. Checking uses the cost that is
written in the hash, so that hashes made under another configuration stay good. A hash is malformed
or not on its own account, whatever the password.
-/

set_option autoImplicit false

namespace SessionAuth

/-- Why a password is not hashed or not accepted. -/
inductive PasswordFault where
  | emptyPassword
  | unusableCost (flaw : HashCost.Flaw)
  | malformedHash
  | mismatch
  /-- The worker that was to do it ended without a result. -/
  | workerLost
  deriving DecidableEq, Repr

/-- The wording of a cause. -/
def PasswordFault.message : PasswordFault → String
  | .emptyPassword => "Password must not be empty"
  | .unusableCost flaw => "Invalid password hash parameters: " ++ flaw.message
  | .malformedHash => "Invalid password hash"
  | .mismatch => "Password mismatch"
  | .workerLost => "Password worker unavailable: task panicked"

/-- Computes hashes of one cost. -/
structure Hasher where
  cost : HashCost
  usable : cost.flaw? = none

namespace Hasher

/-- The hasher of a cost that can be used. -/
def ofCost (cost : HashCost) : Except PasswordFault Hasher :=
  match h : cost.flaw? with
  | none => .ok ⟨cost, h⟩
  | some flaw => .error (.unusableCost flaw)

/-- How a hasher is shown: without anything it holds. -/
def shown : String := "PasswordHasher \x7b .. \x7d"

/-! ## Making hashes -/

/-- The name of the algorithm. -/
def algorithmName : List Char := "argon2id".toList

/-- Bytes of a digest that is made. -/
def digestLength : Nat := 32

/-- Bytes of a salt that is made. -/
def saltLength : Nat := 16

/-- The inputs of the hash function for a cost. -/
def setting (cost : HashCost) (outputLength : Nat) (associatedData : Bytes) : Argon2id.Setting :=
  ⟨cost.memoryKib, cost.passes, cost.lanes, outputLength, associatedData⟩

/-- The parameters that a cost is written as. -/
def costParameters (cost : HashCost) : List (List Char × List Char) :=
  [(['m'], Decimal.digits cost.memoryKib), (['t'], Decimal.digits cost.passes),
    (['p'], Decimal.digits cost.lanes)]

/-- The hash of a password under a salt. -/
def encode (h : Hasher) (password : String) (salt : Bytes) : EncodedHash :=
  { algorithm := algorithmName
    version := some Argon2id.versionNumber
    parameters := costParameters h.cost
    salt := some (Base64.encode .standard salt)
    digest := some (Argon2id.hash (setting h.cost digestLength []) (Utf8.ofString password) salt) }

/-- Hashes a password under a salt drawn from the source. The outer result is missing where the source
fails: there is no way to go on then. An empty password is refused before anything is drawn. -/
def hash? (h : Hasher) (password : String) (r : RandomSource) :
    Option (Except PasswordFault String × RandomSource) :=
  if password.isEmpty then some (.error .emptyPassword, r)
  else (r.draw? saltLength).map fun (salt, r) => (.ok (h.encode password salt).toText, r)

/-! ## Checking -/

/-- Everything that a well-formed hash says. -/
structure Parsed where
  cost : HashCost
  salt : Bytes
  digest : Bytes
  associatedData : Bytes
  deriving DecidableEq, Repr

/-- Bytes of the shortest salt that is accepted. -/
def leastSalt : Nat := 8

/-- Bytes of the shortest digest that is accepted. -/
def leastDigest : Nat := 16

/-- The bytes of a value, at most so many. -/
def boundedBytes? (limit : Nat) (l : List Char) : Option Bytes :=
  (EncodedHash.bytes? l).filter fun b => b.length ≤ limit

/-- Takes one parameter into account; a later one of a name wins. A key identifier is checked and
not used. -/
def takeParameter? (acc : HashCost × Bytes) (p : List Char × List Char) :
    Option (HashCost × Bytes) :=
  match p.1 with
  | ['m'] => (EncodedHash.number? p.2).map fun n => ({ acc.1 with memoryKib := n }, acc.2)
  | ['t'] => (EncodedHash.number? p.2).map fun n => ({ acc.1 with passes := n }, acc.2)
  | ['p'] => (EncodedHash.number? p.2).map fun n => ({ acc.1 with lanes := n }, acc.2)
  | ['k', 'e', 'y', 'i', 'd'] => (boundedBytes? 8 p.2).map fun _ => acc
  | ['d', 'a', 't', 'a'] => (boundedBytes? 32 p.2).map fun b => (acc.1, b)
  | _ => none

/-- What a hash says, if it is one of this algorithm and version, with a cost that can be used, and
a salt and a digest that are long enough. -/
def parse? (s : String) : Option Parsed := do
  let e ← EncodedHash.parse? s
  if e.algorithm ≠ algorithmName ∨ e.version ≠ some Argon2id.versionNumber then none
  let salt ← EncodedHash.bytes? (← e.salt)
  let digest ← e.digest
  if salt.length < leastSalt ∨ digest.length < leastDigest then none
  let (cost, associatedData) ← e.parameters.foldlM takeParameter? (HashCost.unstated, [])
  if cost.flaw?.isSome then none
  return ⟨cost, salt, digest, associatedData⟩

/-- The digest that a password has under what a hash says. -/
def Parsed.digestOf (p : Parsed) (password : String) : Bytes :=
  Argon2id.hash (setting p.cost p.digest.length p.associatedData) (Utf8.ofString password) p.salt

/-- Checks a password against a hash. -/
def verify (password encoded : String) : Except PasswordFault Unit :=
  match parse? encoded with
  | none => .error .malformedHash
  | some p => if p.digestOf password = p.digest then .ok () else .error .mismatch

end Hasher

end SessionAuth
