import SessionAuth.Encoding.Bytes

/-!
Text as bytes in UTF-8. Writing takes one to four bytes a character. Reading is strict: overlong
forms, surrogates and numbers beyond the last character are refused, so that each text has one
encoding.
-/

set_option autoImplicit false

namespace SessionAuth.Utf8

/-! ## Writing -/

/-- A byte that continues a character, with its six bits. -/
def continuation (n : Nat) : UInt8 := UInt8.ofNat (128 + n % 64)

/-- The bytes of one character. -/
def encodeChar (c : Char) : Bytes :=
  let n := c.toNat
  if n < 0x80 then [UInt8.ofNat n]
  else if n < 0x800 then [UInt8.ofNat (0xc0 + n / 64), continuation n]
  else if n < 0x10000 then [UInt8.ofNat (0xe0 + n / 4096), continuation (n / 64), continuation n]
  else [UInt8.ofNat (0xf0 + n / 262144), continuation (n / 4096), continuation (n / 64),
    continuation n]

/-- The bytes of a text. -/
def encode (l : List Char) : Bytes := l.flatMap encodeChar

/-- The bytes of a string. -/
def ofString (s : String) : Bytes := encode s.toList

/-- How many bytes a text takes. -/
def size (s : String) : Nat := (ofString s).length

/-! ## Reading -/

/-- The six bits of a continuation byte. -/
def continued? (b : UInt8) : Option Nat :=
  let n := b.toNat
  if 0x80 ≤ n ∧ n < 0xc0 then some (n - 0x80) else none

/-- The character that one byte stands for. -/
def char1? (b₀ : UInt8) : Option Char :=
  if b₀.toNat < 0x80 then some (Char.ofNat b₀.toNat) else none

/-- The character that two bytes stand for. -/
def char2? (b₀ b₁ : UInt8) : Option Char := do
  let x ← continued? b₁
  let n := b₀.toNat
  if 0xc2 ≤ n ∧ n < 0xe0 then some (Char.ofNat ((n - 0xc0) * 64 + x)) else none

/-- The character that three bytes stand for. -/
def char3? (b₀ b₁ b₂ : UInt8) : Option Char := do
  let x ← continued? b₁
  let y ← continued? b₂
  let n := b₀.toNat
  let v := (n - 0xe0) * 4096 + x * 64 + y
  if 0xe0 ≤ n ∧ n < 0xf0 ∧ 0x800 ≤ v ∧ ¬ (0xd800 ≤ v ∧ v < 0xe000) then some (Char.ofNat v)
  else none

/-- The character that four bytes stand for. -/
def char4? (b₀ b₁ b₂ b₃ : UInt8) : Option Char := do
  let x ← continued? b₁
  let y ← continued? b₂
  let z ← continued? b₃
  let n := b₀.toNat
  let v := (n - 0xf0) * 262144 + x * 4096 + y * 64 + z
  if 0xf0 ≤ n ∧ n < 0xf5 ∧ 0x10000 ≤ v ∧ v < 0x110000 then some (Char.ofNat v) else none

/-- The text that has these bytes. -/
def decode? : Bytes → Option (List Char)
  | [] => some []
  | b₀ :: rest =>
    match char1? b₀ with
    | some c => (decode? rest).map (c :: ·)
    | none =>
      match rest with
      | [] => none
      | b₁ :: rest =>
        match char2? b₀ b₁ with
        | some c => (decode? rest).map (c :: ·)
        | none =>
          match rest with
          | [] => none
          | b₂ :: rest =>
            match char3? b₀ b₁ b₂ with
            | some c => (decode? rest).map (c :: ·)
            | none =>
              match rest with
              | [] => none
              | b₃ :: rest =>
                match char4? b₀ b₁ b₂ b₃ with
                | some c => (decode? rest).map (c :: ·)
                | none => none

/-- The string that has these bytes. -/
def toString? (b : Bytes) : Option String := (decode? b).map String.ofList

end SessionAuth.Utf8
