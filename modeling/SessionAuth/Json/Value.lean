import SessionAuth.Decimal.Shortest

/-!
JSON values and how they are written: without blanks, members in the order of the object, and with
escapes only where text could not stand otherwise.
-/

set_option autoImplicit false

namespace SessionAuth.Json

/-- A number: a whole one of at most 64 bits, or a floating-point one. -/
inductive Number where
  | int (value : Int)
  | float (negative : Bool) (magnitude : Decimal.Binary)
  deriving DecidableEq, Repr

/-- A JSON value. -/
inductive Value where
  | null
  | bool (value : Bool)
  | number (value : Number)
  | text (value : String)
  | array (elements : List Value)
  | object (members : List (String × Value))
  deriving Repr

instance : Inhabited Value := ⟨.null⟩

/-- A natural number as a value. -/
def Value.nat (n : Nat) : Value := .number (.int n)

/-- A whole number as a value. -/
def Value.int (i : Int) : Value := .number (.int i)

/-- The value, or null. -/
def Value.ofOption {α : Type} (f : α → Value) : Option α → Value
  | none => .null
  | some a => f a

/-- The member of a name; of several, the last one. -/
def Value.get? : Value → String → Option Value
  | .object members, name => (members.reverse.find? (·.1 == name)).map (·.2)
  | _, _ => none

/-! ## Writing -/

/-- The text of a number. -/
def Number.toChars : Number → List Char
  | .int i => (Decimal.intToText i).toList
  | .float negative x => (if negative then ['-'] else []) ++ Decimal.messageText x

/-- A character inside quotes. -/
def escape (c : Char) : List Char :=
  if c = '"' then ['\\', '"']
  else if c = '\\' then ['\\', '\\']
  else if c = '\x08' then ['\\', 'b']
  else if c = '\x0c' then ['\\', 'f']
  else if c = '\n' then ['\\', 'n']
  else if c = '\r' then ['\\', 'r']
  else if c = '\t' then ['\\', 't']
  else if c.toNat < 32 then
    ['\\', 'u', '0', '0', if c.toNat < 16 then '0' else '1',
      (Nat.digitChar (c.toNat % 16))]
  else [c]

/-- Text between quotes. -/
def quote (s : String) : List Char := '"' :: s.toList.flatMap escape ++ ['"']

mutual

/-- The text of a value. -/
def Value.toChars : Value → List Char
  | .null => ['n', 'u', 'l', 'l']
  | .bool true => ['t', 'r', 'u', 'e']
  | .bool false => ['f', 'a', 'l', 's', 'e']
  | .number n => n.toChars
  | .text s => quote s
  | .array elements => '[' :: Value.elementChars elements ++ [']']
  | .object members => '\x7b' :: Value.memberChars members ++ ['\x7d']

/-- The texts of elements between commas. -/
def Value.elementChars : List Value → List Char
  | [] => []
  | [v] => v.toChars
  | v :: w :: rest => v.toChars ++ ',' :: Value.elementChars (w :: rest)

/-- The texts of members between commas. -/
def Value.memberChars : List (String × Value) → List Char
  | [] => []
  | [(k, v)] => quote k ++ ':' :: v.toChars
  | (k, v) :: m :: rest => quote k ++ ':' :: v.toChars ++ ',' :: Value.memberChars (m :: rest)

end

/-- The text of a value. -/
def Value.toText (v : Value) : String := String.ofList v.toChars

end SessionAuth.Json
