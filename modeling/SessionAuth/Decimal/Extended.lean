import SessionAuth.Decimal.Shortest

/-!
Floating-point numbers with a sign, the two infinities and the number that is none.
-/

set_option autoImplicit false

namespace SessionAuth.Decimal

/-- A floating-point number. -/
inductive Extended where
  | finite (negative : Bool) (magnitude : Binary)
  | infinite (negative : Bool)
  | undefined
  deriving DecidableEq, Repr

namespace Extended

/-- Text behind a minus sign, if there is one. -/
def signed (negative : Bool) (l : List Char) : String :=
  String.ofList (if negative then '-' :: l else l)

/-- The text of a number, with a point only where digits follow it. -/
def toText : Extended → String
  | .finite negative x => signed negative (plainText x)
  | .infinite negative => signed negative ['i', 'n', 'f']
  | .undefined => "NaN"

/-- The text of a number, with a point in any case. -/
def pointedText : Extended → String
  | .finite negative x => signed negative (positional (shortest x) ['.', '0'])
  | x => x.toText

/-- The nearest natural number below a limit, a tie away from zero. -/
def roundBelow (limit : Nat) : Extended → Nat
  | .finite false x => min x.round (limit - 1)
  | .infinite false => limit - 1
  | _ => 0

/-- The most decimal places that are looked at, before and behind the point: what is larger than all
numbers, or smaller than all of them, is so whatever else it is. -/
def placesLimit : Int := 400

/-- The number with a sign, digits and a power of ten. What is too large is infinite. -/
def ofDecimal (negative : Bool) (digits : Nat) (exponent : Int) : Extended :=
  let leading := exponent + (Decimal.digits digits).length
  if digits = 0 ∨ leading < -placesLimit then .finite negative .zero
  else if placesLimit < leading then .infinite negative
  else match Binary.ofDecimal? digits exponent with
    | some x => .finite negative x
    | none => .infinite negative

end Extended

end SessionAuth.Decimal
