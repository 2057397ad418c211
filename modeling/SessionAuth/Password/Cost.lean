/-!
What computing a password hash costs: memory, passes over it and lanes it is divided into.
-/

set_option autoImplicit false

namespace SessionAuth

/-- The cost of a password hash. -/
structure HashCost where
  /-- Memory in units of 1024 bytes. -/
  memoryKib : Nat
  /-- Passes over the memory. -/
  passes : Nat
  /-- Lanes that could be filled in parallel. -/
  lanes : Nat
  deriving DecidableEq, Repr

namespace HashCost

/-- Why a cost cannot be used. -/
inductive Flaw where
  | memoryTooSmall
  | tooFewPasses
  | tooFewLanes
  | tooManyLanes
  deriving DecidableEq, Repr

/-- The wording of a cause. -/
def Flaw.message : Flaw → String
  | .memoryTooSmall => "memory cost is too small"
  | .tooFewPasses => "time cost is too small"
  | .tooFewLanes => "not enough threads"
  | .tooManyLanes => "too many threads"

/-- Most lanes. -/
def laneLimit : Nat := 16777215

/-- The memory that a number of lanes needs: eight units for each, counted in 32 bits. -/
def memoryFor (lanes : Nat) : Nat := lanes * 8 % 4294967296

/-- The first thing that is wrong with a cost. -/
def flaw? (c : HashCost) : Option Flaw :=
  if c.memoryKib < 8 ∨ c.memoryKib < memoryFor c.lanes then some .memoryTooSmall
  else if c.passes < 1 then some .tooFewPasses
  else if c.lanes < 1 then some .tooFewLanes
  else if laneLimit < c.lanes then some .tooManyLanes
  else none

/-- The cost where nothing else is configured: 64 MiB, three passes, two lanes. -/
def standard : HashCost := ⟨65536, 3, 2⟩

theorem flaw?_standard : standard.flaw? = none := rfl

/-- The cost of an encoded hash that leaves it out. -/
def unstated : HashCost := ⟨19456, 2, 1⟩

end HashCost

end SessionAuth
