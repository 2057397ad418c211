import SessionAuth.Json.Record

/-!
The header of a signed token, of which only the name of the algorithm is used. All other known
fields have to be well-formed nevertheless, an embedded key included.
-/

set_option autoImplicit false

namespace SessionAuth

/-- The algorithms that a header can name. -/
inductive SignatureAlgorithm where
  | hs256 | hs384 | hs512 | es256 | es384 | rs256 | rs384 | rs512 | ps256 | ps384 | ps512 | edDsa
  deriving DecidableEq, Repr

/-- The algorithms with their names. -/
def SignatureAlgorithm.names : List (String × SignatureAlgorithm) :=
  [("HS256", .hs256), ("HS384", .hs384), ("HS512", .hs512), ("ES256", .es256),
    ("ES384", .es384), ("RS256", .rs256), ("RS384", .rs384), ("RS512", .rs512),
    ("PS256", .ps256), ("PS384", .ps384), ("PS512", .ps512), ("EdDSA", .edDsa)]

namespace TokenHeader

open Json

/-! ## The algorithm -/

/-- What names an alternative in messages. -/
def alternative : String := "variant identifier"

/-- Reads the name of one of several alternatives. -/
def readName {α : Type} (names : List (String × α)) : Reader α := fun b =>
  match skipSpace b with
  | [] => faultOn .endInValue []
  | c :: rest =>
    if c = byte '"' then do
      let (s, rest) ← readTextTail rest
      match names.lookup s with
      | some a => .ok (a, rest)
      | none => faultAt (.mismatch (.variant s (names.map (·.1)))) rest
    else wrongType alternative (c :: rest)

/-- Reads null. -/
def readUnit (b : Bytes) : Except Fault Bytes :=
  match skipSpace b with
  | [] => faultOn .endInValue []
  | c :: rest => if c = byte 'n' then readWord (word "ull") rest else wrongType "unit" (c :: rest)

/-- Reads one of several alternatives: its name, or an object with the name and null. -/
def readAlternative {α : Type} (names : List (String × α)) : Reader α := fun b =>
  match skipSpace b with
  | [] => faultOn .endInValue []
  | c :: rest =>
    if c = byte '"' then readName names (c :: rest)
    else if c = byte '\x7b' then do
      let (a, b) ← readName names rest
      let b ← readUnit (← readColon b)
      match skipSpace b with
      | [] => faultAt .endInObject []
      | d :: rest => if d = byte '\x7d' then .ok (a, rest) else faultAt .expectedValue (d :: rest)
    else faultOn .expectedValue (c :: rest)

/-! ## An embedded key -/

/-- The members of a name. -/
def members (name : String) (m : List (String × Value)) : List Value :=
  (m.filter (·.1 == name)).map (·.2)

/-- Whether a value is text. -/
def isText : Value → Bool
  | .text _ => true
  | _ => false

/-- Whether a value is text out of a list. -/
def isOneOf (names : List String) : Value → Bool
  | .text s => names.contains s
  | _ => false

/-- Whether a value is a list of texts. -/
def isTextList : Value → Bool
  | .array vs => vs.all isText
  | _ => false

/-- Whether a value is null or passes a test. -/
def isNullOr (test : Value → Bool) : Value → Bool
  | .null => true
  | v => test v

/-- The names of what a key can be used for. -/
def keyAlgorithms : List String :=
  SignatureAlgorithm.names.map (·.1) ++ ["RSA1_5", "RSA-OAEP", "RSA-OAEP-256"]

/-- The fields that any key may have, with what they can hold. -/
def commonFields : List (String × (Value → Bool)) :=
  [("use", isText), ("key_ops", isTextList), ("alg", isOneOf keyAlgorithms), ("kid", isText),
    ("x5u", isText), ("x5c", isTextList), ("x5t", isText), ("x5t#S256", isText)]

/-- The named curves. -/
def curves : List String := ["P-256", "P-384", "P-521", "Ed25519"]

/-- The kinds of keys: the fields that each has to have, with what they can hold. -/
def keyKinds : List (List (String × (Value → Bool))) :=
  [[("kty", isOneOf ["EC"]), ("crv", isOneOf curves), ("x", isText), ("y", isText)],
    [("kty", isOneOf ["RSA"]), ("n", isText), ("e", isText)],
    [("kty", isOneOf ["oct"]), ("k", isText)],
    [("kty", isOneOf ["OKP"]), ("crv", isOneOf curves), ("x", isText)]]

/-- Whether a field occurs once and passes its test. -/
def hasField (m : List (String × Value)) (f : String × (Value → Bool)) : Bool :=
  match members f.1 m with
  | [v] => f.2 v
  | _ => false

/-- What is wrong with a field that any key may have. -/
def commonMismatch? (m : List (String × Value)) (f : String × (Value → Bool)) :
    Option Mismatch :=
  match members f.1 m with
  | [] => none
  | [v] => if isNullOr f.2 v then none else some (.noAlternative "AlgorithmParameters")
  | _ => some (.duplicate f.1)

/-- What is wrong with a key. -/
def keyMismatch? (m : List (String × Value)) : Option Mismatch :=
  match commonFields.findSome? (commonMismatch? m) with
  | some mismatch => some mismatch
  | none =>
    if keyKinds.any fun kind => kind.all (hasField m) then none
    else some (.noAlternative "AlgorithmParameters")

/-- How deep values in a key may be nested. -/
def keyDepth : Nat := depthLimit - 2

/-- Reads a key, of which nothing is kept. -/
def readKey : Reader Unit := fun b =>
  match skipSpace b with
  | [] => faultOn .endInValue []
  | c :: rest =>
    if c = byte '\x7b' then do
      let (m, b) ← closing closeObject
        (readMembers (readValue keyDepth) (rest.length + 1) true rest)
      match keyMismatch? m with
      | some mismatch => faultAt (.mismatch mismatch) (afterClosing closeObject b)
      | none => return ((), ← closeObject b)
    else wrongType "struct Jwk" (c :: rest)

/-- Reads a list of texts. -/
def readTexts : Reader (List String) := fun b =>
  match skipSpace b with
  | [] => faultOn .endInValue []
  | c :: rest =>
    if c = byte '[' then readList readText rest else wrongType "a sequence" (c :: rest)

/-! ## The header -/

/-- What has been read of a header: the names of its fields, and the algorithm. -/
structure Draft where
  seen : List String := []
  algorithm : Option SignatureAlgorithm := none

/-- A field that may be null and of which nothing is kept. -/
def optionalField {α : Type} (name : String) (read : Reader α) : Json.Field Draft :=
  ⟨name, fun d => d.seen.contains name,
    fun d b => (readOption read b).map fun p => ({ d with seen := name :: d.seen }, p.2)⟩

/-- How a header is read. -/
def record : Record Draft SignatureAlgorithm where
  expected := "struct Header"
  expectedList := "struct Header with 10 elements"
  fields := [
    optionalField "typ" readText,
    ⟨"alg", fun d => d.algorithm.isSome,
      fun d b => (readAlternative SignatureAlgorithm.names b).map
        fun p => ({ d with algorithm := some p.1 }, p.2)⟩,
    optionalField "cty" readText,
    optionalField "jku" readText,
    optionalField "jwk" readKey,
    optionalField "kid" readText,
    optionalField "x5u" readText,
    optionalField "x5c" readTexts,
    optionalField "x5t" readText,
    optionalField "x5t#S256" readText]
  empty := {}
  finish := fun d => require "alg" d.algorithm

/-- Reads the algorithm of a header. -/
def parse (input : Bytes) : Except Fault SignatureAlgorithm := readAll record.read input

/-- The header of the tokens that are issued. -/
def issued : Value := .object [("typ", .text "JWT"), ("alg", .text "HS256")]

end TokenHeader

end SessionAuth
