import SessionAuth.Config.Node
import SessionAuth.Decimal.Digits
import SessionAuth.Decimal.Word
import SessionAuth.Json.Value
import SessionAuth.Text.LowerCase
import SessionAuth.Text.Quoted

/-!
How numbers, texts and records are taken from a notation.

A notation says what it accepts as a natural number of so many bits, as text, and as a record of fields,
which can be a table or a list. JSON is strict. Layers of configuration come from places where all is
text, so there a scalar is converted if that makes sense, and an objection says where the scalar stands.
-/

set_option autoImplicit false

namespace SessionAuth.Config

/-- A field of a record, as it is found: its value, and how a fault in it is seen from the record. The
field is asked for by its number and its name. -/
abbrev Fields (ν ε : Type) := Nat → String → Except ε (Option (ν × (ε → ε)))

/-- A notation with values of type `ν` and faults of type `ε`. -/
structure Format (ν ε : Type) where
  /-- A natural number of so many bits. -/
  natural : Nat → ν → Except ε Nat
  text : ν → Except ε String
  /-- The fields of a record with a name and a number of fields. -/
  record : String → Nat → ν → Except ε (Fields ν ε)
  /-- The fault of a record without a field. -/
  missing : String → ε

/-- Reads a field, if it is there. -/
def Fields.read {ν ε α : Type} (fields : Fields ν ε) (read : ν → Except ε α) (number : Nat)
    (name : String) : Except ε (Option α) := do
  match ← fields number name with
  | none => return none
  | some (v, within) => return some (← (read v).mapError within)

/-- The value of a field that has to be there. -/
def Format.require {ν ε α : Type} (f : Format ν ε) (name : String) : Option α → Except ε α
  | some a => .ok a
  | none => .error (f.missing name)

/-! ## JSON -/

/-- What does not fit is refused without further words. -/
structure Unfit where
  deriving DecidableEq, Repr

/-- A natural number of so many bits. -/
def jsonNatural (bits : Nat) : Json.Value → Except Unfit Nat
  | .number (.int i) => if 0 ≤ i ∧ i.toNat < Nat.pow 2 bits then .ok i.toNat else .error {}
  | _ => .error {}

/-- Text. -/
def jsonText : Json.Value → Except Unfit String
  | .text s => .ok s
  | _ => .error {}

/-- The fields of an object, or of a list that has exactly these fields. -/
def jsonRecord (size : Nat) (v : Json.Value) : Except Unfit (Fields Json.Value Unfit) :=
  match v with
  | .object _ => .ok fun _ name => .ok ((v.get? name).map fun w => (w, id))
  | .array elements =>
    -- a list stands for a record only if it is complete
    if elements.length = size then
      .ok fun number _ => .ok (elements[number]?.map fun w => (w, id))
    else .error {}
  | _ => .error {}

/-- JSON. -/
def jsonFormat : Format Json.Value Unfit where
  natural := jsonNatural
  text := jsonText
  record _ := jsonRecord
  missing _ := {}

/-! ## Layers -/

/-- Why layers cannot be read as settings. -/
inductive Misfit where
  /-- A value that cannot be converted, with the path to it and its origin. -/
  | value (found expected path : String) (origin : Option String)
  /-- Something else where a record is expected. -/
  | record (found name : String)
  /-- A list with too few elements for a record. -/
  | tooShort (length : Nat) (name : String) (size : Nat)
  | missing (field : String)
  deriving DecidableEq, Repr

/-- The wording of a misfit. -/
def Misfit.message : Misfit → String
  | .value found expected path origin =>
    "invalid type: " ++ found ++ ", expected " ++ expected ++
      (if path.isEmpty then "" else " for key \x60" ++ path ++ "\x60") ++
      origin.elim "" fun o => " in " ++ o
  | .record found name => "invalid type: " ++ found ++ ", expected struct " ++ name
  | .tooShort length name size =>
    "invalid length " ++ Decimal.toText length ++ ", expected struct " ++ name ++ " with " ++
      Decimal.toText size ++ (if size = 1 then " element" else " elements")
  | .missing field => "missing field \x60" ++ field ++ "\x60"

/-- A step before a path, with a dot between names. -/
def prependStep (step path : String) : String :=
  if path.isEmpty || path.toList.head? == some '[' then step ++ path else step ++ "." ++ path

/-- The misfit of a part seen from the whole. -/
def Misfit.within (step : String) : Misfit → Misfit
  | .value found expected path origin => .value found expected (prependStep step path) origin
  | m => m

/-- What a text stands for as a number. -/
def numberOfText? (s : String) : Option Nat :=
  let lower := String.ofList (Text.lower s.toList)
  -- a switch may stand where a number is expected
  if ["true", "on", "yes"].contains lower then some 1
  else if ["false", "off", "no"].contains lower then some 0
  else (Decimal.readSigned? s.toList).filter (· < Decimal.wordLimit)

/-- A number of 64 bits. -/
def layerNumber (v : Node) : Except Misfit Nat :=
  let expected := "an integer"
  match v with
  | .list origin _ => .error (.value "sequence" expected "" origin)
  | .table origin _ => .error (.value "map" expected "" origin)
  | .scalar origin scalar =>
    match scalar with
    | .null => .error (.value "unit value" expected "" origin)
    | .bool b => .ok (if b then 1 else 0)
    | .integer i =>
      if 0 ≤ i then .ok i.toNat
      else .error (.value ("64-bit integer \x60" ++ Decimal.intToText i ++ "\x60")
        "an unsigned 64 bit or less integer" "" origin)
    | .float x => .ok (x.roundBelow Decimal.wordLimit)
    | .text s =>
      (numberOfText? s).elim
        (.error (.value ("string " ++ Text.quoted s) expected "" origin)) .ok

/-- A natural number of so many bits. -/
def layerNatural (bits : Nat) (v : Node) : Except Misfit Nat := do
  let n ← layerNumber v
  if n < Nat.pow 2 bits then return n
  else throw (.value ("64-bit unsigned integer \x60" ++ Decimal.toText n ++ "\x60")
    ("an unsigned " ++ Decimal.toText bits ++ " bit integer") "" none)

/-- Text. -/
def layerText (v : Node) : Except Misfit String :=
  let expected := "a string"
  match v with
  | .list origin _ => .error (.value "sequence" expected "" origin)
  | .table origin _ => .error (.value "map" expected "" origin)
  | .scalar origin scalar =>
    match scalar with
    | .null => .error (.value "unit value" expected "" origin)
    | .bool b => .ok (if b then "true" else "false")
    | .integer i => .ok (Decimal.intToText i)
    | .float x => .ok x.toText
    | .text s => .ok s

/-- What is said to be found where a record is expected. -/
def shownScalar : Scalar → String
  | .null => "unit value"
  | .bool b => "boolean \x60" ++ (if b then "true" else "false") ++ "\x60"
  | .integer i => "integer \x60" ++ Decimal.intToText i ++ "\x60"
  | .float x => "floating point \x60" ++ x.pointedText ++ "\x60"
  | .text s => "string " ++ Text.quoted s

/-- The fields of a table, or of a list in the order of the fields. -/
def layerRecord (name : String) (size : Nat) : Node → Except Misfit (Fields Node Misfit)
  | .table _ members =>
    .ok fun _ field => .ok ((members.lookup field).map fun v => (v, Misfit.within field))
  | .list _ elements =>
    .ok fun number _ =>
      match elements[number]? with
      | some v => .ok (some (v, Misfit.within ("[" ++ Decimal.toText number ++ "]")))
      | none => .error (.tooShort number name size)
  | .scalar _ scalar => .error (.record (shownScalar scalar) name)

/-- Layers of configuration. -/
def layerFormat : Format Node Misfit where
  natural := layerNatural
  text := layerText
  record := layerRecord
  missing := .missing

end SessionAuth.Config
