import SessionAuth.Encoding.Bytes

/-!
Base64 without padding, over the standard and the URL-safe alphabet.

Writing takes three bytes to four symbols and a last one or two bytes to two or three symbols,
whose unused low bits are zero. Reading is strict: it refuses symbols outside the alphabet, padding,
a single left-over symbol and unused bits that are not zero, so every byte string has exactly one
text. Each refusal is a cause with the offset of the symbol at fault.
-/

set_option autoImplicit false

namespace SessionAuth.Base64

/-- The two alphabets differ in the symbols for 62 and 63. -/
inductive Alphabet where
  | standard
  | urlSafe
  deriving DecidableEq, Repr

/-- The symbol for 62. -/
def Alphabet.symbol62 : Alphabet → Char
  | .standard => '+'
  | .urlSafe => '-'

/-- The symbol for 63. -/
def Alphabet.symbol63 : Alphabet → Char
  | .standard => '/'
  | .urlSafe => '_'

/-- The symbol of a six-bit value: capital letters, small letters, digits, then the two
symbols of the alphabet. -/
def Alphabet.symbol (a : Alphabet) (n : Nat) : Char :=
  if n < 26 then Char.ofNat (65 + n)
  else if n < 52 then Char.ofNat (71 + n)
  else if n < 62 then Char.ofNat (n - 4)
  else if n = 62 then a.symbol62
  else a.symbol63

/-- The six-bit value of a byte that is a symbol of the alphabet. -/
def Alphabet.value? (a : Alphabet) (b : UInt8) : Option Nat :=
  let n := b.toNat
  if 65 ≤ n ∧ n ≤ 90 then some (n - 65)
  else if 97 ≤ n ∧ n ≤ 122 then some (n - 71)
  else if 48 ≤ n ∧ n ≤ 57 then some (n + 4)
  else if n = a.symbol62.toNat then some 62
  else if n = a.symbol63.toNat then some 63
  else none

/-! ## Writing -/

/-- The symbols of a byte string, without padding. -/
def encode (a : Alphabet) : Bytes → List Char
  | [] => []
  | [x] => [a.symbol (x.toNat / 4), a.symbol (x.toNat % 4 * 16)]
  | [x, y] =>
    [a.symbol (x.toNat / 4), a.symbol (x.toNat % 4 * 16 + y.toNat / 16),
      a.symbol (y.toNat % 16 * 4)]
  | x :: y :: z :: rest =>
    a.symbol (x.toNat / 4) :: a.symbol (x.toNat % 4 * 16 + y.toNat / 16) ::
      a.symbol (y.toNat % 16 * 4 + z.toNat / 64) :: a.symbol (z.toNat % 64) :: encode a rest

/-- The text of a byte string, without padding. -/
def toText (a : Alphabet) (b : Bytes) : String := String.ofList (encode a b)

/-! ## Reading -/

/-- Why a text is not unpadded Base64. -/
inductive Flaw where
  /-- A byte at this offset is not in the alphabet, or is padding where none can stand. -/
  | symbol (offset : Nat) (byte : UInt8)
  /-- One symbol is left over, which carries no whole byte. -/
  | length (length : Nat)
  /-- The last symbol at this offset has bits that no byte uses. -/
  | lastSymbol (offset : Nat) (byte : UInt8)
  /-- The text ends in padding. -/
  | padding
  deriving DecidableEq, Repr

/-- The wording of a cause. -/
def Flaw.message : Flaw → String
  | .symbol offset byte => s!"Invalid symbol {byte.toNat}, offset {offset}."
  | .length n => s!"Invalid input length: {n}"
  | .lastSymbol offset byte => s!"Invalid last symbol {byte.toNat}, offset {offset}."
  | .padding => "Invalid padding"

/-- The padding byte, an equals sign. -/
def pad : UInt8 := 61

/-- The values of the at most four last bytes, each of which has to be a symbol, up to the first
padding byte. Padding may only follow two symbols, and nothing may follow it; whether there was
any is the second component. -/
def lastValues (a : Alphabet) (offset : Nat) (seen : Nat) (firstPad : Option Nat) :
    Bytes → Except Flaw (List Nat × Bool)
  | [] => .ok ([], firstPad.isSome)
  | b :: rest =>
    if b = pad then
      if seen < 2 then .error (.symbol (offset + seen) b)
      else lastValues a offset (seen + 1) (firstPad <|> some (offset + seen)) rest
    else match firstPad with
      | some at_ => .error (.symbol at_ pad)
      | none =>
        match a.value? b with
        | none => .error (.symbol (offset + seen) b)
        | some v => do
          let (vs, padded) ← lastValues a offset (seen + 1) none rest
          return (v :: vs, padded)

/-- The bytes of a last group of two to four symbols, if its unused bits are zero. -/
def lastBytes (offset : Nat) (input : Bytes) : List Nat → Except Flaw Bytes
  | [p, q] =>
    if q % 16 = 0 then .ok [UInt8.ofNat (p * 4 + q / 16)]
    else .error (.lastSymbol (offset + 1) (input.getD 1 pad))
  | [p, q, r] =>
    if r % 4 = 0 then
      .ok [UInt8.ofNat (p * 4 + q / 16), UInt8.ofNat (q % 16 * 16 + r / 4)]
    else .error (.lastSymbol (offset + 2) (input.getD 2 pad))
  | [p, q, r, s] =>
    .ok [UInt8.ofNat (p * 4 + q / 16), UInt8.ofNat (q % 16 * 16 + r / 4),
      UInt8.ofNat (r % 4 * 64 + s)]
  | vs => .error (.length (offset + vs.length))

/-- Reads the last group, which has at most four bytes. -/
def decodeLast (a : Alphabet) (offset : Nat) (input : Bytes) : Except Flaw Bytes :=
  if input.isEmpty then .ok []
  else do
    let (vs, padded) ← lastValues a offset 0 none input
    if vs.length < 2 then .error (.length (offset + vs.length))
    else if padded then .error .padding
    else lastBytes offset input vs

/-- The value of a symbol inside the text. -/
def valueAt (a : Alphabet) (offset : Nat) (b : UInt8) : Except Flaw Nat :=
  match a.value? b with
  | some v => .ok v
  | none => .error (.symbol offset b)

/-- Reads groups of four symbols while more than four are left, then the last group. -/
def decodeFrom (a : Alphabet) (offset : Nat) : Bytes → Except Flaw Bytes
  | b₀ :: b₁ :: b₂ :: b₃ :: b₄ :: rest => do
    let p ← valueAt a offset b₀
    let q ← valueAt a (offset + 1) b₁
    let r ← valueAt a (offset + 2) b₂
    let s ← valueAt a (offset + 3) b₃
    let tail ← decodeFrom a (offset + 4) (b₄ :: rest)
    return UInt8.ofNat (p * 4 + q / 16) :: UInt8.ofNat (q % 16 * 16 + r / 4) ::
      UInt8.ofNat (r % 4 * 64 + s) :: tail
  | input => decodeLast a offset input

/-- The byte that is left over when the groups of four are taken off, if it is neither a symbol
nor padding: it is reported before anything else. -/
def strayLast (a : Alphabet) (input : Bytes) : Option UInt8 :=
  if input.length % 4 = 1 then
    input.getLast?.filter fun b => b != pad && (a.value? b).isNone
  else none

/-- Reads unpadded Base64. -/
def decode (a : Alphabet) (input : Bytes) : Except Flaw Bytes :=
  match strayLast a input with
  | some b => .error (.symbol (input.length - 1) b)
  | none => decodeFrom a 0 input

/-- Reads unpadded Base64, forgetting the cause of a refusal. -/
def decode? (a : Alphabet) (input : Bytes) : Option Bytes := (decode a input).toOption

end SessionAuth.Base64
