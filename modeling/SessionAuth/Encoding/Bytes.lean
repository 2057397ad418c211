/-!
Byte strings, and the two ways in which a machine word is laid out in one.

A byte string is a list: readers take bytes off its front and what is left of the list is what
is left to read, so that a position needs no index and a reader recurses on the data.
-/

set_option autoImplicit false

namespace SessionAuth

/-- A finite string of bytes. -/
abbrev Bytes := List UInt8

namespace Bytes

/-! ## Words as bytes -/

/-- The four bytes of a 32-bit word, least significant first. -/
def ofUInt32LE (w : UInt32) : Bytes :=
  [w.toUInt8, (w >>> 8).toUInt8, (w >>> 16).toUInt8, (w >>> 24).toUInt8]

/-- The four bytes of a 32-bit word, most significant first. -/
def ofUInt32BE (w : UInt32) : Bytes :=
  [(w >>> 24).toUInt8, (w >>> 16).toUInt8, (w >>> 8).toUInt8, w.toUInt8]

/-- The eight bytes of a 64-bit word, least significant first. -/
def ofUInt64LE (w : UInt64) : Bytes :=
  ofUInt32LE w.toUInt32 ++ ofUInt32LE (w >>> 32).toUInt32

/-- The eight bytes of a 64-bit word, most significant first. -/
def ofUInt64BE (w : UInt64) : Bytes :=
  ofUInt32BE (w >>> 32).toUInt32 ++ ofUInt32BE w.toUInt32

/-- The word whose bytes, least significant first, are the given ones. -/
def toUInt64LE (b : Bytes) : UInt64 :=
  b.foldr (fun x acc => (acc <<< 8) ||| x.toUInt64) 0

/-- The word whose bytes, most significant first, are the given ones. -/
def toUInt32BE (b : Bytes) : UInt32 :=
  b.foldl (fun acc x => (acc <<< 8) ||| x.toUInt32) 0

@[simp] theorem length_ofUInt32LE (w : UInt32) : (ofUInt32LE w).length = 4 := rfl
@[simp] theorem length_ofUInt32BE (w : UInt32) : (ofUInt32BE w).length = 4 := rfl
@[simp] theorem length_ofUInt64LE (w : UInt64) : (ofUInt64LE w).length = 8 := rfl
@[simp] theorem length_ofUInt64BE (w : UInt64) : (ofUInt64BE w).length = 8 := rfl

/-- Combines two byte strings position by position; the result is as long as the shorter. -/
def xor (a b : Bytes) : Bytes := List.zipWith (· ^^^ ·) a b

@[simp] theorem length_xor (a b : Bytes) : (xor a b).length = min a.length b.length := by
  simp [xor]

end Bytes

end SessionAuth
