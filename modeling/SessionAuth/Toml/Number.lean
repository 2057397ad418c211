import SessionAuth.Decimal.Word
import SessionAuth.Encoding.Hex
import SessionAuth.Toml.Value

/-!
Numbers in TOML documents: whole ones of 64 bits in four bases, and floating-point ones.

Single underscores may stand between digits. A decimal number has no leading zeros.
-/

set_option autoImplicit false

namespace SessionAuth.Toml

/-- The digits of a number, without the underscores between them. -/
def plainDigits? (isDigit : Char → Bool) : List Char → Option (List Char)
  | [] => none
  | [c] => if isDigit c then some [c] else none
  | c :: '_' :: rest =>
    if isDigit c then (plainDigits? isDigit rest).map (c :: ·) else none
  | c :: rest => if isDigit c then (plainDigits? isDigit rest).map (c :: ·) else none

/-- The value of digits in a base. -/
def valueIn? (base : Nat) (digits : List Char) : Option Nat := do
  let values ← digits.mapM Hex.value?
  if values.all (· < base) then some (values.foldl (fun n d => n * base + d) 0) else none

/-- A number in a base, with underscores. -/
def readIn? (base : Nat) (l : List Char) : Option Nat := do
  valueIn? base (← plainDigits? (fun c => (Hex.value? c).any (· < base)) l)

/-- Decimal digits without leading zeros. -/
def decimalDigits? (l : List Char) : Option (List Char) := do
  let digits ← plainDigits? Decimal.isDigit l
  if digits.length ≠ 1 ∧ digits.head? = some '0' then none else some digits

/-- A sign, which may be left out, and the text behind it. -/
def splitSign : List Char → Bool × List Char
  | '-' :: rest => (true, rest)
  | '+' :: rest => (false, rest)
  | l => (false, l)

/-- A whole number of 64 bits. -/
def signed64? (i : Int) : Option Int := if Decimal.isSignedWord i then some i else none

/-- A whole number. -/
def integer? (l : List Char) : Option Int := do
  match l with
  | '0' :: 'x' :: digits => signed64? (← readIn? 16 digits)
  | '0' :: 'o' :: digits => signed64? (← readIn? 8 digits)
  | '0' :: 'b' :: digits => signed64? (← readIn? 2 digits)
  | _ =>
    let (negative, digits) := splitSign l
    let n ← valueIn? 10 (← decimalDigits? digits)
    signed64? (if negative then -(n : Int) else n)

/-- The power of ten behind a number. -/
def exponent? : List Char → Option Int
  | [] => some 0
  | c :: rest =>
    if c = 'e' ∨ c = 'E' then do
      let (negative, digits) := splitSign rest
      let n ← valueIn? 10 (← plainDigits? Decimal.isDigit digits)
      return if negative then -(n : Int) else n
    else none

/-- Whether a character is a digit or an underscore. -/
def isDigitOrJoint (c : Char) : Bool := Decimal.isDigit c || c = '_'

/-- A floating-point number with a fraction, an exponent or both. A positive number that is too large
is refused. -/
def decimal? (negative : Bool) (l : List Char) : Option Decimal.Extended := do
  let whole ← decimalDigits? (l.takeWhile isDigitOrJoint)
  let (fraction, rest) ← match l.dropWhile isDigitOrJoint with
    | '.' :: rest => do
      let fraction ← plainDigits? Decimal.isDigit (rest.takeWhile isDigitOrJoint)
      some (fraction, rest.dropWhile isDigitOrJoint)
    | rest => if rest.isEmpty then none else some ([], rest)
  let exponent ← exponent? rest
  let digits ← valueIn? 10 (whole ++ fraction)
  match Decimal.Extended.ofDecimal negative digits (exponent - fraction.length) with
  | .infinite false => none
  | x => some x

/-- A floating-point number. -/
def float? (l : List Char) : Option Decimal.Extended :=
  let (negative, rest) := splitSign l
  match rest with
  | ['i', 'n', 'f'] => some (.infinite negative)
  | ['n', 'a', 'n'] => some .undefined
  | _ => decimal? negative rest

end SessionAuth.Toml
