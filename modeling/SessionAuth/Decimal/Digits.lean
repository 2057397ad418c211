/-!
Natural numbers in decimal digits: writing, writing with leading zeros to a fixed width, and
reading without sign.
-/

set_option autoImplicit false

namespace SessionAuth.Decimal

/-- The digit of a value below ten. -/
def digit (n : Nat) : Char := Char.ofNat (48 + n)

/-- The value of a digit. -/
def value? (c : Char) : Option Nat :=
  if 48 ≤ c.toNat ∧ c.toNat ≤ 57 then some (c.toNat - 48) else none

/-- Whether a character is a digit. -/
def isDigit (c : Char) : Bool := (value? c).isSome

/-- The last digits of a number, as many as the first argument says. -/
def padded : Nat → Nat → List Char
  | 0, _ => []
  | width + 1, n => padded width (n / 10) ++ [digit (n % 10)]

@[simp] theorem length_padded (width n : Nat) : (padded width n).length = width := by
  induction width generalizing n with
  | zero => rfl
  | succ w ih => simp [padded, ih]

/-- The digits of a number, without leading zeros; the first argument bounds how many. -/
def digitsWithin : Nat → Nat → List Char
  | 0, n => [digit (n % 10)]
  | fuel + 1, n => if n < 10 then [digit n] else digitsWithin fuel (n / 10) ++ [digit (n % 10)]

/-- The digits of a number, without leading zeros. -/
def digits (n : Nat) : List Char := digitsWithin n.log2 n

/-- A number with at least the given number of digits. -/
def atLeast (width n : Nat) : List Char :=
  let d := digits n
  List.replicate (width - d.length) '0' ++ d

/-- The text of a number. -/
def toText (n : Nat) : String := String.ofList (digits n)

/-- The text of a number that may be negative. -/
def intToText (i : Int) : String :=
  if i < 0 then String.ofList ('-' :: digits i.natAbs) else toText i.natAbs

/-- Continues reading digits onto a value. -/
def readOnto : Nat → List Char → Option Nat
  | n, [] => some n
  | n, c :: rest => do readOnto (10 * n + (← value? c)) rest

/-- The number written with at least one digit and nothing else. -/
def read? (l : List Char) : Option Nat := if l.isEmpty then none else readOnto 0 l

/-- The number, if it is below a limit. -/
def readBelow? (limit : Nat) (l : List Char) : Option Nat := (read? l).filter (· < limit)

/-- The number in a notation that allows a plus sign before the digits. -/
def readSigned? (l : List Char) : Option Nat :=
  match l with
  | '+' :: rest => read? rest
  | _ => read? l

end SessionAuth.Decimal
