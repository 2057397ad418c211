import SessionAuth.Decimal.Digits
import SessionAuth.Encoding.Base64
import SessionAuth.Text.Utf8

/-!
Password hashes as text: fields behind dollar signs for the algorithm, its version, its parameters,
the salt and the digest. Version and parameters may be left out; salt and digest may be missing at
the end.
-/

set_option autoImplicit false

namespace SessionAuth

/-- A password hash taken apart. The salt is kept as it is written. -/
structure EncodedHash where
  algorithm : List Char
  version : Option Nat
  parameters : List (List Char × List Char)
  salt : Option (List Char)
  digest : Option Bytes
  deriving DecidableEq, Repr

namespace EncodedHash

/-! ## Pieces -/

/-- The pieces of a text between separators; there is always at least one. -/
def splitAt (separator : Char) : List Char → List (List Char)
  | [] => [[]]
  | c :: rest =>
    if c = separator then [] :: splitAt separator rest
    else match splitAt separator rest with
      | [] => [[c]]
      | piece :: pieces => (c :: piece) :: pieces

/-- Whether a character may stand in a name: small letters, digits and hyphens. -/
def isNameChar (c : Char) : Bool :=
  (97 ≤ c.toNat && c.toNat ≤ 122) || Decimal.isDigit c || c == '-'

/-- Whether a text is a name of one to 32 characters. -/
def isName (l : List Char) : Bool := !l.isEmpty && l.length ≤ 32 && l.all isNameChar

/-- Whether a character may stand in a value: letters, digits and `/+.-`. -/
def isValueChar (c : Char) : Bool :=
  isNameChar c || (65 ≤ c.toNat && c.toNat ≤ 90) || c == '/' || c == '+' || c == '.'

/-- Whether a text is a value of at most 64 characters. -/
def isValue (l : List Char) : Bool := l.length ≤ 64 && l.all isValueChar

/-- The number that a value stands for: digits without a leading zero, below 2^32. -/
def number? (l : List Char) : Option Nat :=
  if l.head? = some '0' ∧ 1 < l.length then none else Decimal.readBelow? 4294967296 l

/-- The bytes of a text in standard Base64 without padding. -/
def bytes? (l : List Char) : Option Bytes := Base64.decode? .standard (Utf8.encode l)

/-- A parameter with its value. -/
def parameter? (l : List Char) : Option (List Char × List Char) :=
  match splitAt '=' l with
  | [name, value] => if isName name && isValue value then some (name, value) else none
  | _ => none

/-- The parameters of a field of at most 127 bytes. -/
def parameters? (l : List Char) : Option (List (List Char × List Char)) :=
  if (Utf8.encode l).length ≤ 127 then (splitAt ',' l).mapM parameter? else none

/-- A salt of four to 64 characters. -/
def salt? (l : List Char) : Option (List Char) :=
  if 4 ≤ l.length && isValue l then some l else none

/-- A digest of ten to 64 bytes. -/
def digest? (l : List Char) : Option Bytes :=
  (bytes? l).filter fun b => 10 ≤ b.length && b.length ≤ 64

/-! ## The whole -/

/-- The version, if the next field is one, and the fields behind it. -/
def takeVersion? : List (List Char) → Option (Option Nat × List (List Char))
  | [] => some (none, [])
  | field :: fields =>
    if field.take 2 = ['v', '='] ∧ !field.contains ',' then
      let value := field.drop 2
      if isValue value then (number? value).map fun n => (some n, fields) else none
    else some (none, field :: fields)

/-- The parameters, if the next field has any, and the fields behind it. -/
def takeParameters? : List (List Char) →
    Option (List (List Char × List Char) × List (List Char))
  | [] => some ([], [])
  | field :: fields =>
    if field.contains '=' then (parameters? field).map fun p => (p, fields)
    else some ([], field :: fields)

/-- Takes a password hash apart. -/
def parse? (s : String) : Option EncodedHash := do
  match splitAt '$' s.toList with
  | [] :: algorithm :: fields =>
    if !isName algorithm then none
    let (version, fields) ← takeVersion? fields
    let (parameters, fields) ← takeParameters? fields
    match fields with
    | [] => return ⟨algorithm, version, parameters, none, none⟩
    | [salt] => return ⟨algorithm, version, parameters, ← salt? salt, none⟩
    | [salt, digest] =>
      return ⟨algorithm, version, parameters, ← salt? salt, ← digest? digest⟩
    | _ => none
  | _ => none

/-! ## Writing -/

/-- A parameter and its value. -/
def parameterChars (p : List Char × List Char) : List Char := p.1 ++ '=' :: p.2

/-- Puts a hash together. -/
def toChars (e : EncodedHash) : List Char :=
  '$' :: e.algorithm ++
    (match e.version with
      | some v => '$' :: 'v' :: '=' :: Decimal.digits v
      | none => []) ++
    (if e.parameters.isEmpty then []
      else '$' :: List.intercalate [','] (e.parameters.map parameterChars)) ++
    (match e.salt with
      | some salt => '$' :: salt
      | none => []) ++
    (match e.digest with
      | some digest => '$' :: Base64.encode .standard digest
      | none => [])

/-- The text of a hash. -/
def toText (e : EncodedHash) : String := String.ofList e.toChars

end EncodedHash

end SessionAuth
