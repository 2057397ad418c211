import SessionAuth.Json.Reader

/-!
Reading records: objects with named fields, or lists with the fields in order.

Fields are read into a draft, one after the other as the input has them, and the draft becomes the
record at the end, when missing fields are noticed. Fields of other names are passed over; a field
that comes twice is refused.
-/

set_option autoImplicit false

namespace SessionAuth.Json

/-- A field of a record that is read into a draft of type `σ`. -/
structure Field (σ : Type) where
  name : String
  /-- Whether the draft has the field already. -/
  filled : σ → Bool
  /-- Reads the field into the draft. -/
  read : σ → Reader σ

/-- A record: how it is called in messages, its fields, and how a draft becomes a record. -/
structure Record (σ α : Type) where
  /-- What is expected where there is neither an object nor a list. -/
  expected : String
  /-- What is expected of a list with too few elements. -/
  expectedList : String
  fields : List (Field σ)
  empty : σ
  finish : σ → Except Mismatch α

/-- The fault of a part seen from the whole. -/
def partFault {α : Type} (step : Step) : Except Fault α → Except Fault α
  | .ok a => .ok a
  | .error fault => .error (fault.within step)

/-- Reads members into a draft until the end of the object. A mismatch of the whole record is returned
with what is left, for the object to be closed. -/
def readFields {σ : Type} (fields : List (Field σ)) :
    Nat → Bool → σ → Bytes → Except Fault (Except Mismatch σ × Bytes)
  | 0, _, _, b => faultAt .endInObject b
  | fuel + 1, first, draft, b => do
    let (key, b) ← nextKey first b
    match key with
    | none => return (.ok draft, b)
    | some inside =>
      let (name, b) ← readTextTail inside
      match fields.find? (·.name == name) with
      | none =>
        let b ← partFault (.field name) (do skipValue (← readColon b))
        readFields fields fuel false draft b
      | some field =>
        if field.filled draft then return (.error (.duplicate name), b)
        else
          let (draft, b) ← partFault (.field name) (do field.read draft (← readColon b))
          readFields fields fuel false draft b

/-- Reads elements into a draft, one for each field. -/
def readFieldsInOrder {σ : Type} (expected : String) :
    Nat → List (Field σ) → σ → Bytes → Except Fault (Except Mismatch σ × Bytes)
  | _, [], draft, b => .ok (.ok draft, b)
  | n, field :: fields, draft, b => do
    let (more, b) ← nextElement (n == 0) b
    if more then
      let (draft, b) ← partFault (.index n) (field.read draft b)
      readFieldsInOrder expected (n + 1) fields draft b
    else return (.error (.length n expected), b)

/-- Makes the record of a draft and closes what it was read from. -/
def finishRecord {σ α : Type} (r : Record σ α) (close : Bytes → Except Fault Bytes)
    (read : Except Fault (Except Mismatch σ × Bytes)) : Except Fault (α × Bytes) := do
  let (draft, b) ← closing close read
  match draft.bind r.finish with
  | .error m => faultAt (.mismatch m) (afterClosing close b)
  | .ok a => return (a, ← close b)

/-- Reads a record. -/
def Record.read {σ α : Type} (r : Record σ α) : Reader α := fun b =>
  match skipSpace b with
  | [] => faultOn .endInValue []
  | c :: rest =>
    if c = byte '[' then
      finishRecord r closeList (readFieldsInOrder r.expectedList 0 r.fields r.empty rest)
    else if c = byte '\x7b' then
      finishRecord r closeObject (readFields r.fields (rest.length + 1) true r.empty rest)
    else wrongType r.expected (c :: rest)

/-- A field of text. -/
def Field.text {σ : Type} (name : String) (get : σ → Option String)
    (set : σ → String → σ) : Field σ :=
  ⟨name, fun d => (get d).isSome, fun d b => (readText b).map fun p => (set d p.1, p.2)⟩

/-- A field of a whole number. -/
def Field.int64 {σ : Type} (name : String) (get : σ → Option Int) (set : σ → Int → σ) : Field σ :=
  ⟨name, fun d => (get d).isSome, fun d b => (readInt64 b).map fun p => (set d p.1, p.2)⟩

/-- The value of a field that has to be there. -/
def require {α : Type} (name : String) : Option α → Except Mismatch α
  | some a => .ok a
  | none => .error (.missing name)

end SessionAuth.Json
