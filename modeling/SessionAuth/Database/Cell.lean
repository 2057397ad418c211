import SessionAuth.Time.Instant
import SessionAuth.Uuid

/-!
What passes between the service and its database: cells, rows, and the faults of a query.

A row names its cells. Reading a cell as a value of some type fails in a way that tells apart a column
that is not there, a null where there has to be a value, and a cell of another type.
-/

set_option autoImplicit false

namespace SessionAuth.Database

/-- A parameter of a statement, or the value of a column. -/
inductive Cell where
  | null
  | uuid (value : Uuid)
  | text (value : String)
  | bytes (value : Bytes)
  | time (value : Instant)
  deriving DecidableEq, Repr

/-- The cell of a value, or null. -/
def Cell.ofOption {α : Type} (f : α → Cell) : Option α → Cell
  | none => .null
  | some a => f a

/-- What the database answers to a statement that it does not carry out. -/
structure ServerFault where
  /-- The class of the fault, in five signs. -/
  code : String
  message : String
  /-- The constraint that would be broken. -/
  broken : Option String
  deriving DecidableEq, Repr

/-- The class of values that would be there twice. -/
def ServerFault.duplicateCode : String := "23505"

/-- The class of references to nothing. -/
def ServerFault.danglingCode : String := "23503"

/-- A value of a unique column would be there twice. -/
def ServerFault.duplicate (constraint : String) : ServerFault :=
  ⟨duplicateCode, "duplicate key value violates unique constraint \"" ++ constraint ++ "\"",
    some constraint⟩

/-- A new session would refer to nothing. -/
def ServerFault.dangling (constraint : String) : ServerFault :=
  ⟨danglingCode, "insert or update on table \"sessions\" violates foreign key constraint \"" ++
    constraint ++ "\"", some constraint⟩

/-- Why a query fails. -/
inductive QueryFault where
  | server (fault : ServerFault)
  | missingColumn (column : String)
  | nullColumn (column : String)
  | mistypedColumn (column : String)
  /-- A digest of the wrong length. -/
  | digestLength (column : String)
  deriving DecidableEq, Repr

/-- The wording of a cause. -/
def QueryFault.message : QueryFault → String
  | .server fault => "error returned from database: " ++ fault.message
  | .missingColumn column => "no column found for name: " ++ column
  | .nullColumn column =>
    "error occurred while decoding column \"" ++ column ++
      "\": unexpected null; try decoding as an \x60Option\x60"
  | .mistypedColumn column =>
    "error occurred while decoding column \"" ++ column ++ "\": unexpected type"
  | .digestLength column =>
    "error occurred while decoding column " ++ column ++ ": digest is not 32 bytes"

/-! ## Rows -/

/-- The cells of a row under the names of their columns. -/
abbrev Row := List (String × Cell)

namespace Row

/-- The row with other cells in some of its columns. -/
def patch (cells : Row) (r : Row) : Row :=
  r.map fun p => (p.1, (cells.lookup p.1).getD p.2)

/-- The value of a column, which may be null. -/
def optional {α : Type} (read? : Cell → Option α) (r : Row) (column : String) :
    Except QueryFault (Option α) :=
  match r.lookup column with
  | none => .error (.missingColumn column)
  | some .null => .ok none
  | some cell => (read? cell).elim (.error (.mistypedColumn column)) (.ok ∘ some)

/-- The value of a column. -/
def required {α : Type} (read? : Cell → Option α) (r : Row) (column : String) :
    Except QueryFault α := do
  match ← r.optional read? column with
  | some a => return a
  | none => throw (.nullColumn column)

end Row

/-! ## Types of columns -/

namespace Cell

/-- An identifier. -/
def uuid? : Cell → Option Uuid
  | .uuid value => some value
  | _ => none

/-- Text. -/
def text? : Cell → Option String
  | .text value => some value
  | _ => none

/-- Bytes. -/
def bytes? : Cell → Option Bytes
  | .bytes value => some value
  | _ => none

/-- A time. -/
def time? : Cell → Option Instant
  | .time value => some value
  | _ => none

end Cell

end SessionAuth.Database
