import SessionAuth.Event
import SessionAuth.Random
import SessionAuth.Time.Instant

/-!
The surroundings in which the service acts: a clock, a source of random bytes, the events that have been
reported and a store.

An action either returns a value or fails, and leaves changed surroundings in both cases. It may fail
because it refuses what is asked of it, because the store never answers, or because the random
source ran dry at a point from which there is no way on.
-/

set_option autoImplicit false

namespace SessionAuth

/-- A clock, a random source, the events so far and a store. -/
structure World (σ : Type) where
  now : Instant
  random : RandomSource
  /-- Events, the latest one last. -/
  events : List Event
  store : σ

/-- How an action ends without a value. -/
inductive Failure (ε : Type) where
  | refused (fault : ε)
  | stalled
  | panicked
  deriving DecidableEq, Repr

/-- An action in the world. -/
abbrev Act (σ ε α : Type) := ExceptT (Failure ε) (StateM (World σ)) α

namespace Act

variable {σ ε α : Type}

/-- Fails with a fault. -/
def refuse (fault : ε) : Act σ ε α := throw (.refused fault)

/-- Never ends. -/
def stall : Act σ ε α := throw .stalled

/-- What the clock reads. -/
def now : Act σ ε Instant := return (← get).now

/-- The store. -/
def store : Act σ ε σ := return (← get).store

/-- Changes the store. -/
def modifyStore (f : σ → σ) : Act σ ε Unit := modify fun w => { w with store := f w.store }

/-- Reports an event. -/
def report (e : Event) : Act σ ε Unit := modify fun w => { w with events := w.events ++ [e] }

/-- Draws from the random source, which has to be able to deliver. -/
def draw (f : RandomSource → Option (α × RandomSource)) : Act σ ε α := do
  match f (← get).random with
  | some (a, r) =>
    modify fun w => { w with random := r }
    return a
  | none => throw .panicked

/-- The value of a result, or its fault. -/
def ofExcept : Except ε α → Act σ ε α
  | .ok a => pure a
  | .error fault => refuse fault

end Act

end SessionAuth
