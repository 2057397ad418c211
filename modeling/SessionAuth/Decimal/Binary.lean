/-!
Binary floating-point numbers of double precision, as exact values.

A magnitude is a mantissa below 2^53 times a power of two; every operation forms the exact quotient
of two natural numbers and rounds it to the nearest magnitude, a tie to the even mantissa. There is
no infinity: what is too large has no value.
-/

set_option autoImplicit false

namespace SessionAuth.Decimal

/-- The number `mantissa * 2 ^ exponent`. -/
structure Binary where
  mantissa : Nat
  exponent : Int
  deriving DecidableEq, Repr

namespace Binary

/-- The least exponent, that of numbers near zero. -/
def leastExponent : Int := -1074

/-- The greatest exponent. -/
def greatestExponent : Int := 971

/-- Zero. -/
def zero : Binary := ⟨0, leastExponent⟩

/-- A quotient rounded to the nearest natural number, a tie to the even one. -/
def roundDiv (n d : Nat) : Nat :=
  let q := n / d
  let r := n % d
  if 2 * r < d then q else if d < 2 * r then q + 1 else if q % 2 = 0 then q else q + 1

/-- A quotient divided by a power of two, as a quotient. -/
def scaled (n d : Nat) (e : Int) : Nat × Nat :=
  if 0 ≤ e then (n, d * Nat.pow 2 e.toNat) else (n * Nat.pow 2 (-e).toNat, d)

/-- The exponent with which a quotient has a mantissa of 53 binary digits, or the least one. -/
def exponentOf (n d : Nat) : Int :=
  let guess : Int := (n.log2 : Int) - d.log2 - 52
  let (m, c) := scaled n d guess
  max leastExponent (if m < c * Nat.pow 2 52 then guess - 1 else guess)

/-- The magnitude nearest to a quotient, if it is not too large. -/
def ofRatio? (n d : Nat) : Option Binary :=
  if n = 0 then some zero
  else
    let e := exponentOf n d
    let (m, c) := scaled n d e
    let rounded := roundDiv m c
    let result : Binary := if rounded = Nat.pow 2 53 then ⟨Nat.pow 2 52, e + 1⟩ else ⟨rounded, e⟩
    if result.exponent ≤ greatestExponent then some result else none

/-- A magnitude as a quotient. -/
def toRatio (x : Binary) : Nat × Nat :=
  if 0 ≤ x.exponent then (x.mantissa * Nat.pow 2 x.exponent.toNat, 1)
  else (x.mantissa, Nat.pow 2 (-x.exponent).toNat)

/-- The rounded product. -/
def mul? (x y : Binary) : Option Binary :=
  let (a, b) := x.toRatio
  let (c, d) := y.toRatio
  ofRatio? (a * c) (b * d)

/-- The rounded quotient. -/
def div? (x y : Binary) : Option Binary :=
  let (a, b) := x.toRatio
  let (c, d) := y.toRatio
  ofRatio? (a * d) (b * c)

/-- The magnitude nearest to a natural number. -/
def ofNat? (n : Nat) : Option Binary := ofRatio? n 1

/-- The magnitude nearest to a number in decimal notation. -/
def ofDecimal? (digits : Nat) (exponent : Int) : Option Binary :=
  if 0 ≤ exponent then ofRatio? (digits * Nat.pow 10 exponent.toNat) 1
  else ofRatio? digits (Nat.pow 10 (-exponent).toNat)

/-- The nearest natural number, a tie away from zero. -/
def round (x : Binary) : Nat :=
  let (n, d) := x.toRatio
  (2 * n + d) / (2 * d)

end Binary

end SessionAuth.Decimal
