import SessionAuth.Decimal.Binary
import SessionAuth.Decimal.Digits

/-!
The shortest decimal text of a binary floating-point number: the fewest digits that read back as the
number, and of those the nearest.
-/

set_option autoImplicit false

namespace SessionAuth.Decimal

/-- Digits and the power of ten of the last one. -/
structure Scientific where
  digits : Nat
  exponent : Int
  deriving DecidableEq, Repr

/-- The exponent of the first decimal digit of a positive quotient. -/
def leadingExponent (n d : Nat) : Int :=
  if d ≤ n then ((digits (n / d)).length : Int) - 1
  else
    let k := (digits (d / n)).length
    if d ≤ n * Nat.pow 10 (k - 1) then 1 - (k : Int) else -(k : Int)

/-- The neighbours of a quotient with a last digit of the given power, nearest first. -/
def neighbours (n d : Nat) (exponent : Int) : List Scientific :=
  let (a, b) := if 0 ≤ exponent then (n, d * Nat.pow 10 exponent.toNat)
    else (n * Nat.pow 10 (-exponent).toNat, d)
  let low := a / b
  if 2 * (a % b) ≤ b then [⟨low, exponent⟩, ⟨low + 1, exponent⟩]
  else [⟨low + 1, exponent⟩, ⟨low, exponent⟩]

/-- The first neighbour that reads back, trying one more digit as long as there is none. -/
def searchDigits (x : Binary) (n d : Nat) (leading : Int) : Nat → Nat → Scientific
  | 0, _ => ⟨0, 0⟩
  | fuel + 1, count =>
    let found := (neighbours n d (leading - count)).find? fun s =>
      Binary.ofDecimal? s.digits s.exponent == some x
    match found with
    | some s => s
    | none => searchDigits x n d leading fuel (count + 1)

/-- Moves zeros at the end of the digits into the exponent. -/
def Scientific.withoutZeros : Nat → Scientific → Scientific
  | 0, s => s
  | fuel + 1, s =>
    if s.digits ≠ 0 ∧ s.digits % 10 = 0 then
      withoutZeros fuel ⟨s.digits / 10, s.exponent + 1⟩
    else s

/-- The shortest digits of a magnitude. -/
def shortest (x : Binary) : Scientific :=
  if x.mantissa = 0 then ⟨0, 0⟩
  else
    let (n, d) := x.toRatio
    (searchDigits x n d (leadingExponent n d) 20 0).withoutZeros 20

/-- Digits with a point, or zeros, put where the exponent says. -/
def positional (s : Scientific) (whole : List Char) : List Char :=
  let d := digits s.digits
  if 0 ≤ s.exponent then d ++ List.replicate s.exponent.toNat '0' ++ whole
  else
    let places := (-s.exponent).toNat
    let padded := List.replicate (places + 1 - d.length) '0' ++ d
    padded.take (padded.length - places) ++ '.' :: padded.drop (padded.length - places)

/-- A magnitude in positional notation, whatever its size. -/
def plainText (x : Binary) : List Char := positional (shortest x) []

/-- A magnitude in positional notation from 0.00001 up to sixteen digits before the point, always
with a point, and with an exponent otherwise. -/
def messageText (x : Binary) : List Char :=
  let s := shortest x
  let d := digits s.digits
  let point : Int := d.length + s.exponent
  if s.digits = 0 then ['0', '.', '0']
  else if (0 ≤ s.exponent ∧ point ≤ 16) ∨ (-5 < point ∧ point ≤ 16 ∧ s.exponent < 0) then
    positional s ['.', '0']
  else
    let exponent := (intToText (point - 1)).toList
    match d with
    | [one] => one :: 'e' :: exponent
    | first :: rest => first :: '.' :: rest ++ 'e' :: exponent
    | [] => []

end SessionAuth.Decimal
