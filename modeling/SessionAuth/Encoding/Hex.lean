import SessionAuth.Encoding.Bytes

/-!
Hexadecimal text of byte strings: two digits a byte, the high half first. Writing uses lower-case
digits; reading takes either case, so it accepts more than writing produces.
-/

set_option autoImplicit false

namespace SessionAuth.Hex

/-- The digit of a value below sixteen. -/
def digit (n : Nat) : Char :=
  if n < 10 then Char.ofNat (48 + n) else Char.ofNat (87 + n)

/-- The value of a digit of either case. -/
def value? (c : Char) : Option Nat :=
  let n := c.toNat
  if 48 ≤ n ∧ n ≤ 57 then some (n - 48)
  else if 97 ≤ n ∧ n ≤ 102 then some (n - 87)
  else if 65 ≤ n ∧ n ≤ 70 then some (n - 55)
  else none

/-- The two digits of one byte. -/
def ofByte (b : UInt8) : List Char := [digit (b.toNat / 16), digit (b.toNat % 16)]

/-- Two lower-case digits for each byte. -/
def encode (b : Bytes) : List Char := b.flatMap ofByte

/-- Reads pairs of digits; a character that is no digit, or one left over, is refused. -/
def decode? : List Char → Option Bytes
  | [] => some []
  | [_] => none
  | h :: l :: rest => do
    let high ← value? h
    let low ← value? l
    let tail ← decode? rest
    return UInt8.ofNat (16 * high + low) :: tail

/-- The text of a byte string. -/
def toText (b : Bytes) : String := String.ofList (encode b)

@[simp] theorem encode_nil : encode [] = [] := rfl

@[simp] theorem encode_cons (b : UInt8) (r : Bytes) : encode (b :: r) = ofByte b ++ encode r := rfl

theorem value?_digit (n : Nat) (h : n < 16) : value? (digit n) = some n := by
  have cases16 : ∀ m : Fin 16, value? (digit m.val) = some m.val := by decide
  exact cases16 ⟨n, h⟩

/-- Reading gives back what was written. -/
theorem decode?_encode (b : Bytes) : decode? (encode b) = some b := by
  induction b with
  | nil => rfl
  | cons x r ih =>
    have hx : x.toNat < 256 := x.toNat_lt
    have recombine : UInt8.ofNat (16 * (x.toNat / 16) + x.toNat % 16) = x := by
      rw [show 16 * (x.toNat / 16) + x.toNat % 16 = x.toNat by omega, UInt8.ofNat_toNat]
    show decode? (digit _ :: digit _ :: encode r) = _
    rw [decode?, value?_digit _ (by omega), value?_digit _ (by omega), ih]
    show some (UInt8.ofNat _ :: r) = _
    rw [recombine]

end SessionAuth.Hex
