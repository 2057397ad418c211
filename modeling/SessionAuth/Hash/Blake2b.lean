import SessionAuth.Encoding.Bytes

/-!
The BLAKE2b digest of a byte string, unkeyed, for output lengths from 1 to 64 bytes, and the
extension of it to outputs of any length that the password hash builds on.
-/

set_option autoImplicit false

namespace SessionAuth.Blake2b

/-- Eight words: the chaining value, or one half of the working state. -/
structure Words8 where
  w₀ : UInt64
  w₁ : UInt64
  w₂ : UInt64
  w₃ : UInt64
  w₄ : UInt64
  w₅ : UInt64
  w₆ : UInt64
  w₇ : UInt64
  deriving DecidableEq, Repr

/-- The initial words, the same as those of SHA-512. -/
def initial : Words8 :=
  ⟨0x6a09e667f3bcc908, 0xbb67ae8584caa73b, 0x3c6ef372fe94f82b, 0xa54ff53a5f1d36f1,
    0x510e527fade682d1, 0x9b05688c2b3e6c1f, 0x1f83d9abfb41bd6b, 0x5be0cd19137e2179⟩

/-- Which message word stands where in each of the twelve rounds; the last two repeat the first
two. -/
def orders : List (List Nat) := [
  [0, 1, 2, 3, 4, 5, 6, 7, 8, 9, 10, 11, 12, 13, 14, 15],
  [14, 10, 4, 8, 9, 15, 13, 6, 1, 12, 0, 2, 11, 7, 5, 3],
  [11, 8, 12, 0, 5, 2, 15, 13, 10, 14, 3, 6, 7, 1, 9, 4],
  [7, 9, 3, 1, 13, 12, 11, 14, 2, 6, 5, 10, 4, 0, 15, 8],
  [9, 0, 5, 7, 2, 4, 10, 15, 14, 1, 11, 12, 6, 8, 3, 13],
  [2, 12, 6, 10, 0, 11, 8, 3, 4, 13, 7, 5, 15, 14, 1, 9],
  [12, 5, 1, 15, 14, 13, 4, 10, 0, 7, 6, 3, 9, 2, 8, 11],
  [13, 11, 7, 14, 12, 1, 3, 9, 5, 0, 15, 4, 8, 6, 2, 10],
  [6, 15, 14, 9, 11, 3, 0, 8, 12, 2, 13, 7, 1, 4, 10, 5],
  [10, 2, 8, 4, 7, 6, 1, 5, 15, 11, 9, 14, 3, 12, 13, 0],
  [0, 1, 2, 3, 4, 5, 6, 7, 8, 9, 10, 11, 12, 13, 14, 15],
  [14, 10, 4, 8, 9, 15, 13, 6, 1, 12, 0, 2, 11, 7, 5, 3]]

/-- Rotation to the right, for amounts from 1 to 63. -/
@[inline] def rotr (x : UInt64) (n : UInt64) : UInt64 := (x >>> n) ||| (x <<< (64 - n))

/-- Mixes four words of the working state with two words of the message. -/
@[inline] def mix {α : Type} (a b c d x y : UInt64)
    (k : UInt64 → UInt64 → UInt64 → UInt64 → α) : α :=
  let a := a + b + x
  let d := rotr (d ^^^ a) 32
  let c := c + d
  let b := rotr (b ^^^ c) 24
  let a := a + b + y
  let d := rotr (d ^^^ a) 16
  let c := c + d
  let b := rotr (b ^^^ c) 63
  k a b c d

/-! ## One block -/

/-- One round on both halves of the working state: the columns, then the diagonals. -/
def round (m : Array UInt64) (s : Words8 × Words8) (order : List Nat) : Words8 × Words8 :=
  let x := fun i => m.getD (order.getD i 0) 0
  let u := s.1
  let v := s.2
  mix u.w₀ u.w₄ v.w₀ v.w₄ (x 0) (x 1) fun a₀ b₀ c₀ d₀ =>
  mix u.w₁ u.w₅ v.w₁ v.w₅ (x 2) (x 3) fun a₁ b₁ c₁ d₁ =>
  mix u.w₂ u.w₆ v.w₂ v.w₆ (x 4) (x 5) fun a₂ b₂ c₂ d₂ =>
  mix u.w₃ u.w₇ v.w₃ v.w₇ (x 6) (x 7) fun a₃ b₃ c₃ d₃ =>
  mix a₀ b₁ c₂ d₃ (x 8) (x 9) fun a₀ b₁ c₂ d₃ =>
  mix a₁ b₂ c₃ d₀ (x 10) (x 11) fun a₁ b₂ c₃ d₀ =>
  mix a₂ b₃ c₀ d₁ (x 12) (x 13) fun a₂ b₃ c₀ d₁ =>
  mix a₃ b₀ c₁ d₂ (x 14) (x 15) fun a₃ b₀ c₁ d₂ =>
  (⟨a₀, a₁, a₂, a₃, b₀, b₁, b₂, b₃⟩, ⟨c₀, c₁, c₂, c₃, d₀, d₁, d₂, d₃⟩)

/-- The little-endian words of a byte string; an incomplete last word is dropped. -/
def words : Bytes → List UInt64
  | b₀ :: b₁ :: b₂ :: b₃ :: b₄ :: b₅ :: b₆ :: b₇ :: rest =>
    Bytes.toUInt64LE [b₀, b₁, b₂, b₃, b₄, b₅, b₆, b₇] :: words rest
  | _ => []

/-- Takes one block into the chaining value: `count` bytes have been read with it, and `last` says
whether it is the last one. -/
def compress (h : Words8) (block : Bytes) (count : Nat) (last : Bool) : Words8 :=
  let m := (words block).toArray
  let low : Words8 := { initial with
    -- the zeros that fill up the last block are told from zeros of the message by the count
    w₄ := initial.w₄ ^^^ UInt64.ofNat count
    w₆ := if last then ~~~ initial.w₆ else initial.w₆ }
  let s := orders.foldl (round m) (h, low)
  let u := s.1
  let v := s.2
  ⟨h.w₀ ^^^ u.w₀ ^^^ v.w₀, h.w₁ ^^^ u.w₁ ^^^ v.w₁, h.w₂ ^^^ u.w₂ ^^^ v.w₂,
    h.w₃ ^^^ u.w₃ ^^^ v.w₃, h.w₄ ^^^ u.w₄ ^^^ v.w₄, h.w₅ ^^^ u.w₅ ^^^ v.w₅,
    h.w₆ ^^^ u.w₆ ^^^ v.w₆, h.w₇ ^^^ u.w₇ ^^^ v.w₇⟩

/-! ## The digest -/

/-- Takes full blocks while another one follows, then the last block filled up with zeros. The
first argument bounds the number of full blocks. -/
def absorb : Nat → Nat → Bytes → Words8 → Words8
  | 0, count, input, h =>
    compress h (input ++ List.replicate (128 - input.length) 0) (count + input.length) true
  | n + 1, count, input, h =>
    absorb n (count + 128) (input.drop 128) (compress h (input.take 128) (count + 128) false)

/-- The bytes of a chaining value. -/
def Words8.toBytes (h : Words8) : Bytes :=
  [h.w₀, h.w₁, h.w₂, h.w₃, h.w₄, h.w₅, h.w₆, h.w₇].flatMap Bytes.ofUInt64LE

/-- The digest of the given length, at most 64, of a message. -/
def digest (length : Nat) (message : Bytes) : Bytes :=
  let h := { initial with w₀ := initial.w₀ ^^^ 0x01010000 ^^^ UInt64.ofNat length }
  -- a message that ends with a full block has it as its last one, so that no empty block follows
  ((absorb ((message.length - 1) / 128) 0 message h).toBytes).take length

/-- The first halves of a chain of full digests, each the digest of the one before, and behind them
a digest of what is missing. The number of halves is the first argument. -/
def chain : Nat → Nat → Bytes → Bytes
  | 0, left, v => digest left v
  | n + 1, left, v =>
    let next := digest 64 v
    next.take 32 ++ chain n (left - 32) next

/-- A digest of any length: short ones are plain digests of the length and the message, longer ones
chains of full digests. -/
def extended (length : Nat) (message : Bytes) : Bytes :=
  let start := Bytes.ofUInt32LE (UInt32.ofNat length) ++ message
  if length ≤ 64 then digest length start
  else
    let halves := (length + 31) / 32 - 2
    let first := digest 64 start
    first.take 32 ++ chain (halves - 1) (length - 32) first

end SessionAuth.Blake2b
