import SessionAuth.Json.Value
import SessionAuth.Text.Quoted
import SessionAuth.Text.Utf8
import SessionAuth.Encoding.Hex

/-!
What can go wrong when JSON text is read, and how it is reported.

A fault has a cause and a position. The position is kept as the number of bytes behind it, so that a
reader needs to know only what is left of its input; line and column are worked out from the whole
input when the fault is reported.
-/

set_option autoImplicit false

namespace SessionAuth.Json

/-- What was found where another type was expected. -/
inductive Found where
  | null
  | bool (value : Bool)
  | number (value : Number)
  | text (value : String)
  | sequence
  | map
  deriving DecidableEq, Repr

/-- The wording of what was found. -/
def Found.message : Found → String
  | .null => "null"
  | .bool true => "boolean \x60true\x60"
  | .bool false => "boolean \x60false\x60"
  | .number (.int i) => "integer \x60" ++ Decimal.intToText i ++ "\x60"
  | .number x => "floating point \x60" ++ String.ofList x.toChars ++ "\x60"
  | .text s => "string " ++ Text.quoted s
  | .sequence => "sequence"
  | .map => "map"

/-- Why well-formed JSON is not the data that is read. -/
inductive Mismatch where
  | type (found : Found) (expected : String)
  | value (found : Found) (expected : String)
  | length (found : Nat) (expected : String)
  | missing (field : String)
  | duplicate (field : String)
  | variant (found : String) (expected : List String)
  | noAlternative (name : String)
  deriving DecidableEq, Repr

/-- Names between backquotes and commas. -/
def nameList (names : List String) : String :=
  String.intercalate ", " (names.map fun s => "\x60" ++ s ++ "\x60")

/-- The wording of a mismatch. -/
def Mismatch.message : Mismatch → String
  | .type found expected => "invalid type: " ++ found.message ++ ", expected " ++ expected
  | .value found expected => "invalid value: " ++ found.message ++ ", expected " ++ expected
  | .length found expected =>
    "invalid length " ++ Decimal.toText found ++ ", expected " ++ expected
  | .missing field => "missing field \x60" ++ field ++ "\x60"
  | .duplicate field => "duplicate field \x60" ++ field ++ "\x60"
  | .variant found expected =>
    "unknown variant \x60" ++ found ++ "\x60, expected one of " ++ nameList expected
  | .noAlternative name => "data did not match any variant of untagged enum " ++ name

/-- Why reading stopped. -/
inductive Cause where
  | endInList
  | endInObject
  | endInText
  | endInValue
  | expectedColon
  | expectedListEnd
  | expectedObjectEnd
  | expectedWord
  | expectedValue
  | invalidEscape
  | invalidNumber
  | numberOutOfRange
  | invalidCodePoint
  | controlCharacter
  | keyNotText
  | loneSurrogate
  | trailingComma
  | trailingCharacters
  | endInSurrogates
  | tooDeep
  | mismatch (m : Mismatch)
  deriving DecidableEq, Repr

/-- The wording of a cause. -/
def Cause.message : Cause → String
  | .endInList => "EOF while parsing a list"
  | .endInObject => "EOF while parsing an object"
  | .endInText => "EOF while parsing a string"
  | .endInValue => "EOF while parsing a value"
  | .expectedColon => "expected \x60:\x60"
  | .expectedListEnd => "expected \x60,\x60 or \x60]\x60"
  | .expectedObjectEnd => "expected \x60,\x60 or \x60\x7d\x60"
  | .expectedWord => "expected ident"
  | .expectedValue => "expected value"
  | .invalidEscape => "invalid escape"
  | .invalidNumber => "invalid number"
  | .numberOutOfRange => "number out of range"
  | .invalidCodePoint => "invalid unicode code point"
  | .controlCharacter =>
    "control character (\\u0000-\\u001F) found while parsing a string"
  | .keyNotText => "key must be a string"
  | .loneSurrogate => "lone leading surrogate in hex escape"
  | .trailingComma => "trailing comma"
  | .trailingCharacters => "trailing characters"
  | .endInSurrogates => "unexpected end of hex escape"
  | .tooDeep => "recursion limit exceeded"
  | .mismatch m => m.message

/-- A step from a value to a part of it. -/
inductive Step where
  | field (name : String)
  | index (n : Nat)
  deriving DecidableEq, Repr

/-- Why and where reading stopped. -/
structure Fault where
  cause : Cause
  /-- How many bytes lie behind the reported position. -/
  behind : Nat
  /-- What has not been read. -/
  rest : Bytes
  /-- The steps to the value that was being read. -/
  path : List Step
  deriving DecidableEq, Repr

/-- The data that was read does not fit, although it may be well-formed. -/
def Fault.isMismatch (f : Fault) : Bool :=
  match f.cause with
  | .mismatch _ => true
  | _ => false

/-- The fault seen from a value around. -/
def Fault.within (step : Step) (f : Fault) : Fault := { f with path := step :: f.path }

/-- The text of a path: names behind dots, indices in brackets. -/
def pathText : List Step → String
  | [] => ""
  | [.field name] => name
  | [.index n] => "[" ++ Decimal.toText n ++ "]"
  | .field name :: .field next :: rest => name ++ "." ++ pathText (.field next :: rest)
  | .field name :: rest => name ++ pathText rest
  | .index n :: .field next :: rest =>
    "[" ++ Decimal.toText n ++ "]." ++ pathText (.field next :: rest)
  | .index n :: rest => "[" ++ Decimal.toText n ++ "]" ++ pathText rest

/-- The byte that ends a line. -/
def lineEnd : UInt8 := 10

/-- The line, and the number of bytes since its start, behind a beginning of the input. -/
def lineAndColumn (before : Bytes) : Nat × Nat :=
  (1 + before.count lineEnd, (before.reverse.takeWhile (· != lineEnd)).length)

/-- The report of a fault in an input: the cause, the line and the column. -/
def Fault.message (f : Fault) (input : Bytes) : String :=
  let (line, column) := lineAndColumn (input.take (input.length - f.behind))
  f.cause.message ++ " at line " ++ Decimal.toText line ++ " column " ++ Decimal.toText column

/-- The report of a fault, led by the path to the value if it is not the whole input. -/
def Fault.messageWithPath (f : Fault) (input : Bytes) : String :=
  if f.path.isEmpty then f.message input else pathText f.path ++ ": " ++ f.message input

end SessionAuth.Json
