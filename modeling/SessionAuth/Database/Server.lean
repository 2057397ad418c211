import SessionAuth.Database.Tables
import SessionAuth.World

/-!
The database: tables, the transaction that is open, and a list of the statements executed.

The database can be told to misbehave at a statement, and it may not answer at all. Its own clock
shows whole microseconds.
-/

set_option autoImplicit false

namespace SessionAuth

namespace Database

/-- What happens to a statement instead of, or after, its execution. -/
inductive Interference where
  /-- It fails and does nothing. -/
  | fail (fault : ServerFault)
  /-- It does nothing, and is never answered. -/
  | stall
  /-- It does nothing, but counts as executed. -/
  | ignore
  /-- It is executed, but some columns of its rows are replaced. -/
  | patch (cells : Row)
  deriving DecidableEq, Repr

end Database

open Database in
/-- A database. -/
structure Database where
  tables : Tables := {}
  /-- The tables at the start of the open transaction. -/
  atStart : Option Tables := none
  /-- The statements so far, the latest one last. -/
  log : List Statement := []
  /-- What happens to statements, by their position in the log. -/
  interferences : List (Nat × Interference) := []
  /-- Whether it answers. -/
  answers : Bool := true
  deriving DecidableEq, Repr

namespace Database

/-- The tables without what the open transaction has done to them: what is left where nobody closes
it. -/
def settled (db : Database) : Tables := db.atStart.getD db.tables

/-- Changes the database. -/
def change {ε : Type} (f : Database → Database) : Act Database ε Unit := Act.modifyStore f

/-- Carries out a statement. -/
def perform (s : Statement) : Act Database QueryFault Outcome := do
  let db ← Act.store
  match s with
  | .start =>
    change fun db => { db with atStart := some db.tables }
    return .nothing
  | .commit =>
    change fun db => { db with atStart := none }
    return .nothing
  | .rollback =>
    change fun db => { db with tables := db.settled, atStart := none }
    return .nothing
  | s =>
    match db.tables.run (← Act.now).floorMicros s with
    | .error fault => Act.refuse (.server fault)
    | .ok (outcome, tables) =>
      change fun db => { db with tables }
      return outcome

/-- Executes a statement. -/
def execute (s : Statement) : Act Database QueryFault Outcome := do
  let db ← Act.store
  if !db.answers then Act.stall
  -- the position of a statement counts all that were sent, whether or not they were carried out
  change fun db => { db with log := db.log ++ [s] }
  match db.interferences.lookup db.log.length with
  | none => perform s
  | some (.fail fault) => Act.refuse (.server fault)
  | some .stall => Act.stall
  | some .ignore => return .nothing
  | some (.patch cells) => return (← perform s).patch cells

/-- Executes a statement and returns its first row, if there is one. -/
def fetch (s : Statement) : Act Database QueryFault (Option Row) :=
  return (← execute s).rows.head?

/-- Whether the database is there. -/
def ping : Act Database QueryFault Unit := do
  let _ ← execute .ping

/-! ## Faults -/

variable {ε δ α : Type}

/-- An action with its faults in other words. -/
def mapFault (f : ε → δ) (a : Act Database ε α) : Act Database δ α := fun w =>
  match a w with
  | (.ok value, w) => (.ok value, w)
  | (.error (.refused fault), w) => (.error (.refused (f fault)), w)
  | (.error .stalled, w) => (.error .stalled, w)
  | (.error .panicked, w) => (.error .panicked, w)

/-- An action whose fault is its result. -/
def attempt (a : Act Database ε α) : Act Database δ (Except ε α) := fun w =>
  match a w with
  | (.ok value, w) => (.ok (.ok value), w)
  | (.error (.refused fault), w) => (.ok (.error fault), w)
  | (.error .stalled, w) => (.error .stalled, w)
  | (.error .panicked, w) => (.error .panicked, w)

/-! ## Transactions -/

/-- Rolls back a transaction that nobody waits for, so that it does not matter what comes of it. -/
def abandon : Act Database ε Unit := fun w => (.ok (), (execute .rollback w).2)

/-- Runs an action; where it fails, the transaction it works in is abandoned. -/
def orAbandon (a : Act Database ε α) : Act Database ε α :=
  tryCatch a fun failure => do
    abandon
    throw failure

/-- Rolls back a transaction, and abandons it where that fails. -/
def rollBack : Act Database ε Unit := do
  match ← attempt (orAbandon (execute .rollback)) with
  | .ok _ => return
  | .error fault => Act.report ⟨.warn, "Rollback failed", [("error", .text fault.message)]⟩

/-- Runs an action in a transaction. The action may fail, or decide for a fault: in the first case the
transaction is abandoned, in the second one it is rolled back, and otherwise it is committed. -/
def inTransaction (ofQuery : QueryFault → ε) (a : Act Database ε (Except ε α)) :
    Act Database ε α := do
  let decision ← orAbandon do
    -- a start that fails is rolled back as well: it may have been carried out all the same
    let _ ← mapFault ofQuery (execute .start)
    let decision ← a
    if let .ok _ := decision then
      let _ ← mapFault ofQuery (execute .commit)
    return decision
  match decision with
  | .ok value => return value
  | .error fault =>
    -- the fault that was decided for is the answer, whatever comes of rolling back
    rollBack
    Act.refuse fault

end Database

end SessionAuth
