/-!
The whole numbers that fit into 64 bits, without and with a sign.
-/

set_option autoImplicit false

namespace SessionAuth.Decimal

/-- The first natural number that needs more than 64 bits. -/
def wordLimit : Nat := 18446744073709551616

/-- Whether a whole number fits into 64 bits, one of which is its sign. -/
def isSignedWord (i : Int) : Bool := -9223372036854775808 ≤ i ∧ i ≤ 9223372036854775807

end SessionAuth.Decimal
