import SessionAuth.Password.Hasher

/-!
A pool of workers that hash and check passwords.

Each call takes a permit for as long as its worker runs and gives it back however the worker ends. A
worker that cannot go on, because the random source fails, is lost without a result; its permit is
not.
-/

set_option autoImplicit false

namespace SessionAuth

/-- A hasher and the permits that are free. -/
structure HashingPool where
  hasher : Hasher
  free : Nat

namespace HashingPool

/-- Most permits of a pool. -/
def permitLimit : Nat := 2305843009213693951

/-- A pool for so many workers at once, at least one. There is none for more than the limit. -/
def new? (hasher : Hasher) (maxConcurrent : Nat) : Option HashingPool :=
  let permits := max maxConcurrent 1
  if permits ≤ permitLimit then some ⟨hasher, permits⟩ else none

/-- Takes a permit; without a free one the call would wait. -/
def acquire? (p : HashingPool) : Option HashingPool :=
  if p.free = 0 then none else some { p with free := p.free - 1 }

/-- Gives a permit back. -/
def release (p : HashingPool) : HashingPool := { p with free := p.free + 1 }

/-- Hashes a password in a worker. -/
def hash? (p : HashingPool) (password : String) (r : RandomSource) :
    Option (Except PasswordFault String × HashingPool × RandomSource) := do
  let busy ← p.acquire?
  match busy.hasher.hash? password r with
  | some (result, r) => return (result, busy.release, r)
  | none => return (.error .workerLost, busy.release, r)

/-- Checks a password in a worker. -/
def verify? (p : HashingPool) (password encoded : String) :
    Option (Except PasswordFault Unit × HashingPool) := do
  let busy ← p.acquire?
  return (Hasher.verify password encoded, busy.release)

end HashingPool

end SessionAuth
