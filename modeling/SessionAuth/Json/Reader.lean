import SessionAuth.Decimal.Word
import SessionAuth.Json.Fault

/-!
Reading JSON from bytes, token by token.

A reader takes a value off the front of the input and returns it with what is left. It reports the
first thing that is wrong. Whole numbers of at most 64 bits are kept exactly; all others become
floating-point numbers, whose digits beyond the first nineteen or twenty are not looked at and whose
power of ten is applied with one rounding at a time.
-/

set_option autoImplicit false

namespace SessionAuth.Json

/-- Takes a value off the front of the input. -/
abbrev Reader (α : Type) := Bytes → Except Fault (α × Bytes)

/-- A fault at what is left of the input. -/
def faultAt {α : Type} (cause : Cause) (rest : Bytes) : Except Fault α :=
  .error ⟨cause, rest.length, rest, []⟩

/-- A fault at the byte that comes next, which is part of the reported position. -/
def faultOn {α : Type} (cause : Cause) (rest : Bytes) : Except Fault α :=
  .error ⟨cause, rest.length - 1, rest, []⟩

/-! ## Bytes with a meaning -/

/-- The byte of an ASCII character. -/
def byte (c : Char) : UInt8 := UInt8.ofNat c.toNat

/-- The bytes of an ASCII word. -/
def word (s : String) : Bytes := s.toList.map byte

/-- Whether a byte is a blank between tokens. -/
def isSpace (b : UInt8) : Bool :=
  b == byte ' ' || b == byte '\n' || b == byte '\t' || b == byte '\r'

/-- The input without the blanks before the next token. -/
def skipSpace (b : Bytes) : Bytes := b.dropWhile isSpace

/-- The value of a digit. -/
def digit? (b : UInt8) : Option Nat :=
  if 48 ≤ b.toNat ∧ b.toNat ≤ 57 then some (b.toNat - 48) else none

/-- Whether a byte is a digit. -/
def isDigit (b : UInt8) : Bool := (digit? b).isSome

/-- The value of a hexadecimal digit. -/
def hexDigit? (b : UInt8) : Option Nat := Hex.value? (Char.ofNat b.toNat)

/-- The value of four hexadecimal digits. -/
def hex4? (a b c d : UInt8) : Option Nat := do
  return (← hexDigit? a) * 4096 + (← hexDigit? b) * 256 + (← hexDigit? c) * 16 + (← hexDigit? d)

/-- Reads the rest of a word. -/
def readWord : Bytes → Bytes → Except Fault Bytes
  | [], rest => .ok rest
  | _ :: _, [] => faultAt .endInValue []
  | w :: word, b :: rest => if b = w then readWord word rest else faultAt .expectedWord rest

/-! ## Numbers -/

/-- Powers of ten that are applied in one step. -/
def greatestPower : Nat := 308

/-- A power of ten. -/
def tenTo (n : Nat) : Decimal.Binary := (Decimal.Binary.ofNat? (Nat.pow 10 n)).getD .zero

/-- Divides by a power of ten, in steps of the greatest one. -/
def scaleDown : Nat → Decimal.Binary → Nat → Decimal.Binary
  | 0, x, _ => x
  | fuel + 1, x, n =>
    if n ≤ greatestPower then (x.div? (tenTo n)).getD .zero
    else if x.mantissa = 0 then x
    else scaleDown fuel ((x.div? (tenTo greatestPower)).getD .zero) (n - greatestPower)

/-- The floating-point number of a significand and a power of ten. -/
def makeFloat (negative : Bool) (significand : Nat) (exponent : Int) (rest : Bytes) :
    Except Fault (Number × Bytes) :=
  let x := (Decimal.Binary.ofNat? significand).getD .zero
  if exponent < 0 then
    let n := exponent.natAbs
    .ok (.float negative (scaleDown (n / greatestPower + 1) x n), rest)
  else if exponent.natAbs ≤ greatestPower then
    match x.mul? (tenTo exponent.natAbs) with
    | some y => .ok (.float negative y, rest)
    | none => faultAt .numberOutOfRange rest
  else if significand = 0 then .ok (.float negative x, rest)
  else faultAt .numberOutOfRange rest

/-- The greatest exponent that is read. -/
def greatestExponent : Nat := 2147483647

/-- Reads the digits of an exponent behind the first one. -/
def readExponentDigits (negative : Bool) (significand : Nat) (start : Int) (down : Bool) :
    Nat → Bytes → Except Fault (Number × Bytes)
  | e, [] => makeFloat negative significand (if down then start - e else start + e) []
  | e, b :: rest =>
    match digit? b with
    | none => makeFloat negative significand (if down then start - e else start + e) (b :: rest)
    | some d =>
      if greatestExponent < e * 10 + d then
        -- a zero stays zero, and a number with such a negative exponent becomes zero
        if significand ≠ 0 ∧ !down then faultAt .numberOutOfRange rest
        else .ok (.float negative .zero, rest.dropWhile isDigit)
      else readExponentDigits negative significand start down (e * 10 + d) rest

/-- Reads an exponent behind its sign. -/
def readExponentAfterSign (negative : Bool) (significand : Nat) (start : Int) (down : Bool) :
    Bytes → Except Fault (Number × Bytes)
  | [] => faultAt .endInValue []
  | b :: rest =>
    match digit? b with
    | none => faultAt .invalidNumber rest
    | some d => readExponentDigits negative significand start down d rest

/-- Reads an exponent behind its letter. -/
def readExponent (negative : Bool) (significand : Nat) (start : Int) (b : Bytes) :
    Except Fault (Number × Bytes) :=
  match b with
  | s :: rest =>
    if s = byte '+' then readExponentAfterSign negative significand start false rest
    else if s = byte '-' then readExponentAfterSign negative significand start true rest
    else readExponentAfterSign negative significand start false b
  | [] => faultAt .endInValue []

/-- Whether a byte leads an exponent. -/
def isExponentMark (b : UInt8) : Bool := b == byte 'e' || b == byte 'E'

/-- Reads an exponent if there is one, behind all digits. -/
def readExponent? (negative : Bool) (significand : Nat) (exponent : Int) :
    Bytes → Except Fault (Number × Bytes)
  | [] => makeFloat negative significand exponent []
  | b :: rest =>
    if isExponentMark b then readExponent negative significand exponent rest
    else makeFloat negative significand exponent (b :: rest)

/-- Reads the digits behind the point; `seen` says that there has been one. -/
def readFraction (negative : Bool) (seen : Bool) :
    Nat → Int → Bytes → Except Fault (Number × Bytes)
  | significand, exponent, [] =>
    if seen then makeFloat negative significand exponent [] else faultOn .endInValue []
  | significand, exponent, b :: rest =>
    match digit? b with
    | none =>
      if seen then readExponent? negative significand exponent (b :: rest)
      else faultOn .invalidNumber (b :: rest)
    | some d =>
      if Decimal.wordLimit ≤ significand * 10 + d then
        -- further digits are too small to count
        readExponent? negative significand exponent (rest.dropWhile isDigit)
      else readFraction negative true (significand * 10 + d) (exponent - 1) rest

/-- Counts the digits that are too many for the significand. -/
def readLong (negative : Bool) (significand : Nat) :
    Nat → Bytes → Except Fault (Number × Bytes)
  | exponent, [] => makeFloat negative significand exponent []
  | exponent, b :: rest =>
    if isDigit b then readLong negative significand (exponent + 1) rest
    else if b = byte '.' then readFraction negative false significand exponent rest
    else readExponent? negative significand exponent (b :: rest)

/-- The number of whole digits that nothing follows. -/
def wholeNumber (negative : Bool) (significand : Nat) : Number :=
  if negative then
    -- a negative zero is kept apart from zero, which whole numbers cannot do
    if significand = 0 ∨ 9223372036854775808 < significand then
      .float true ((Decimal.Binary.ofNat? significand).getD .zero)
    else .int (-significand)
  else .int significand

/-- Reads what follows the whole digits. -/
def readTail (negative : Bool) (significand : Nat) : Bytes → Except Fault (Number × Bytes)
  | [] => .ok (wholeNumber negative significand, [])
  | b :: rest =>
    if b = byte '.' then readFraction negative false significand 0 rest
    else if isExponentMark b then readExponent negative significand 0 rest
    else .ok (wholeNumber negative significand, b :: rest)

/-- Reads the whole digits behind the first one. -/
def readWhole (negative : Bool) : Nat → Bytes → Except Fault (Number × Bytes)
  | significand, [] => readTail negative significand []
  | significand, b :: rest =>
    match digit? b with
    | none => readTail negative significand (b :: rest)
    | some d =>
      if Decimal.wordLimit ≤ significand * 10 + d then readLong negative significand 0 (b :: rest)
      else readWhole negative (significand * 10 + d) rest

/-- Reads a number behind its sign. A zero may not lead other digits. -/
def readNumber (negative : Bool) : Bytes → Except Fault (Number × Bytes)
  | [] => faultAt .endInValue []
  | b :: rest =>
    match digit? b with
    | none => faultAt .invalidNumber rest
    | some 0 =>
      if rest.head?.any isDigit then faultOn .invalidNumber rest else readTail negative 0 rest
    | some d => readWhole negative d rest

/-! ## Text -/

/-- The byte that a short escape stands for. -/
def shortEscape? (b : UInt8) : Option UInt8 :=
  if b = byte '"' ∨ b = byte '\\' ∨ b = byte '/' then some b
  else if b = byte 'b' then some 8
  else if b = byte 'f' then some 12
  else if b = byte 'n' then some 10
  else if b = byte 'r' then some 13
  else if b = byte 't' then some 9
  else none

/-- Whether a unit of UTF-16 is the first of a pair. -/
def isLeading (n : Nat) : Bool := 0xd800 ≤ n && n ≤ 0xdbff

/-- Whether a unit of UTF-16 is the second of a pair. -/
def isTrailing (n : Nat) : Bool := 0xdc00 ≤ n && n ≤ 0xdfff

/-- The bytes of the character of a pair. -/
def pairBytes (high low : Nat) : Bytes :=
  Utf8.encodeChar (Char.ofNat ((high - 0xd800) * 1024 + (low - 0xdc00) + 0x10000))

/-- Puts bytes before the text that a reader has read. -/
def prepend (b : Bytes) (r : Except Fault (Bytes × Bytes)) : Except Fault (Bytes × Bytes) :=
  r.map fun p => (b ++ p.1, p.2)

/-- Reads text behind its opening quote, as bytes: escapes are resolved, and control characters
are refused. -/
def readTextBytes : Bytes → Except Fault (Bytes × Bytes)
  | [] => faultAt .endInText []
  | b :: rest =>
    if b = byte '"' then .ok ([], rest)
    else if b = byte '\\' then
      match rest with
      | [] => faultAt .endInText []
      | e :: rest =>
        match shortEscape? e with
        | some x => prepend [x] (readTextBytes rest)
        | none =>
          if e = byte 'u' then
            match rest with
            | h₁ :: h₂ :: h₃ :: h₄ :: rest =>
              match hex4? h₁ h₂ h₃ h₄ with
              | none => faultAt .invalidEscape rest
              | some high =>
                if isTrailing high then faultAt .loneSurrogate rest
                -- a unit outside the range of pairs is a character by itself
                else if !isLeading high then
                  prepend (Utf8.encodeChar (Char.ofNat high)) (readTextBytes rest)
                else
                  match rest with
                  | [] => faultAt .endInText []
                  | s :: rest =>
                    if s ≠ byte '\\' then faultAt .endInSurrogates rest
                    else
                      match rest with
                      | [] => faultAt .endInText []
                      | u :: rest =>
                        if u ≠ byte 'u' then faultAt .endInSurrogates rest
                        else
                          match rest with
                          | l₁ :: l₂ :: l₃ :: l₄ :: rest =>
                            match hex4? l₁ l₂ l₃ l₄ with
                            | none => faultAt .invalidEscape rest
                            | some low =>
                              if isTrailing low then
                                prepend (pairBytes high low) (readTextBytes rest)
                              else faultAt .loneSurrogate rest
                          | _ => faultAt .endInText []
            | _ => faultAt .endInText []
          else faultAt .invalidEscape rest
    else if b.toNat < 32 then faultAt .controlCharacter rest
    else prepend [b] (readTextBytes rest)

/-- Reads text behind its opening quote. -/
def readTextTail (b : Bytes) : Except Fault (String × Bytes) := do
  let (bytes, rest) ← readTextBytes b
  match Utf8.toString? bytes with
  | some s => .ok (s, rest)
  | none => faultAt .invalidCodePoint rest

/-- Passes over text behind its opening quote. What its escapes stand for is not looked at. -/
def skipText : Bytes → Except Fault Bytes
  | [] => faultAt .endInText []
  | b :: rest =>
    if b = byte '"' then .ok rest
    else if b = byte '\\' then
      match rest with
      | [] => faultAt .endInText []
      | e :: rest =>
        if (shortEscape? e).isSome then skipText rest
        else if e = byte 'u' then
          match rest with
          | h₁ :: h₂ :: h₃ :: h₄ :: rest =>
            if (hex4? h₁ h₂ h₃ h₄).isSome then skipText rest else faultAt .invalidEscape rest
          | _ => faultAt .endInText []
        else faultAt .invalidEscape rest
    else if b.toNat < 32 then faultAt .controlCharacter (b :: rest)
    else skipText rest

/-! ## Passing over values -/

/-- Passes over the digits of an exponent. -/
def skipExponent (b : Bytes) : Except Fault Bytes :=
  let unsigned :=
    if b.head?.any fun s => s == byte '+' || s == byte '-' then b.drop 1 else b
  match unsigned with
  | [] => faultAt .invalidNumber []
  | d :: rest => if isDigit d then .ok (rest.dropWhile isDigit) else faultAt .invalidNumber rest

/-- Passes over what follows the whole digits of a number. -/
def skipNumberTail : Bytes → Except Fault Bytes
  | [] => .ok []
  | b :: rest =>
    if b = byte '.' then
      if rest.head?.any isDigit then
        match rest.dropWhile isDigit with
        | [] => .ok []
        | e :: rest => if isExponentMark e then skipExponent rest else .ok (e :: rest)
      else faultOn .invalidNumber rest
    else if isExponentMark b then skipExponent rest
    else .ok (b :: rest)

/-- Passes over a number behind its sign. -/
def skipNumber : Bytes → Except Fault Bytes
  | [] => faultAt .invalidNumber []
  | b :: rest =>
    match digit? b with
    | none => faultAt .invalidNumber rest
    | some 0 =>
      if rest.head?.any isDigit then faultOn .invalidNumber rest else skipNumberTail rest
    | some _ => skipNumberTail (rest.dropWhile isDigit)

/-- What a value lies in. -/
inductive Frame where
  | list
  | object
  deriving DecidableEq

/-- Passes over a key and its colon. -/
def skipKey (b : Bytes) : Except Fault Bytes :=
  match skipSpace b with
  | [] => faultOn .endInObject []
  | q :: rest =>
    if q = byte '"' then do
      let rest ← skipText rest
      match skipSpace rest with
      | [] => faultOn .endInObject []
      | c :: after => if c = byte ':' then .ok after else faultOn .expectedColon (c :: after)
    else faultOn .keyNotText (q :: rest)

/-- Passes over values and what encloses them until the outermost one has ended. The flag says that a
value comes next; the frames are the lists and objects that are open, innermost first. -/
def skipWithin : Nat → Bool → List Frame → Bytes → Except Fault Bytes
  | 0, _, _, b => faultAt .endInValue b
  | _ + 1, false, [], b => .ok b
  | fuel + 1, false, frame :: frames, b =>
    match skipSpace b with
    | [] => faultOn (match frame with | .list => .endInList | .object => .endInObject) []
    | c :: rest =>
      match frame with
      | .list =>
        if c = byte ',' then skipWithin fuel true (.list :: frames) rest
        else if c = byte ']' then skipWithin fuel false frames rest
        else faultOn .expectedListEnd (c :: rest)
      | .object =>
        if c = byte ',' then do
          let rest ← skipKey rest
          skipWithin fuel true (.object :: frames) rest
        else if c = byte '\x7d' then skipWithin fuel false frames rest
        else faultOn .expectedObjectEnd (c :: rest)
  | fuel + 1, true, frames, b =>
    match skipSpace b with
    | [] => faultOn .endInValue []
    | c :: rest =>
      if c = byte 'n' then do skipWithin fuel false frames (← readWord (word "ull") rest)
      else if c = byte 't' then do skipWithin fuel false frames (← readWord (word "rue") rest)
      else if c = byte 'f' then do skipWithin fuel false frames (← readWord (word "alse") rest)
      else if c = byte '-' then do skipWithin fuel false frames (← skipNumber rest)
      else if isDigit c then do skipWithin fuel false frames (← skipNumber (c :: rest))
      else if c = byte '"' then do skipWithin fuel false frames (← skipText rest)
      else if c = byte '[' then
        match skipSpace rest with
        | [] => faultOn .endInList []
        | d :: after =>
          if d = byte ']' then skipWithin fuel false frames after
          else skipWithin fuel true (.list :: frames) (d :: after)
      else if c = byte '\x7b' then
        match skipSpace rest with
        | [] => faultOn .endInObject []
        | d :: after =>
          if d = byte '\x7d' then skipWithin fuel false frames after
          else do
            let rest ← skipKey (d :: after)
            skipWithin fuel true (.object :: frames) rest
      else faultOn .expectedValue (c :: rest)

/-- Passes over a value. Every two steps take a byte off the input, which bounds their number. -/
def skipValue (b : Bytes) : Except Fault Bytes := skipWithin (2 * b.length + 2) true [] b

/-! ## Between values -/

/-- Reads the colon behind a key. -/
def readColon (b : Bytes) : Except Fault Bytes :=
  match skipSpace b with
  | [] => faultOn .endInObject []
  | c :: rest => if c = byte ':' then .ok rest else faultOn .expectedColon (c :: rest)

/-- Looks for the key of a next member: the input behind its opening quote, or none at the end of
the object, which is not taken. -/
def nextKey (first : Bool) (b : Bytes) : Except Fault (Option Bytes × Bytes) :=
  match skipSpace b with
  | [] => faultOn .endInObject []
  | c :: rest =>
    if c = byte '\x7d' then .ok (none, c :: rest)
    else if c = byte ',' ∧ !first then
      match skipSpace rest with
      | [] => faultOn .endInValue []
      | d :: after =>
        if d = byte '"' then .ok (some after, d :: after)
        else if d = byte '\x7d' then faultOn .trailingComma (d :: after)
        else faultOn .keyNotText (d :: after)
    else if first then
      if c = byte '"' then .ok (some rest, c :: rest) else faultOn .keyNotText (c :: rest)
    else faultOn .expectedObjectEnd (c :: rest)

/-- Looks for a next element: true if there is one, false at the end of the list, which is not
taken. -/
def nextElement (first : Bool) (b : Bytes) : Except Fault (Bool × Bytes) :=
  match skipSpace b with
  | [] => faultOn .endInList []
  | c :: rest =>
    if c = byte ']' then .ok (false, c :: rest)
    else if c = byte ',' ∧ !first then
      match skipSpace rest with
      | [] => faultOn .endInValue []
      | d :: after =>
        if d = byte ']' then faultOn .trailingComma (d :: after) else .ok (true, d :: after)
    else if first then .ok (true, c :: rest)
    else faultOn .expectedListEnd (c :: rest)

/-- Reads the end of an object. -/
def closeObject (b : Bytes) : Except Fault Bytes :=
  match skipSpace b with
  | [] => faultOn .endInObject []
  | c :: rest =>
    if c = byte '\x7d' then .ok rest
    else if c = byte ',' then faultOn .trailingComma (c :: rest)
    else faultOn .trailingCharacters (c :: rest)

/-- Reads the end of a list. -/
def closeList (b : Bytes) : Except Fault Bytes :=
  match skipSpace b with
  | [] => faultOn .endInList []
  | c :: rest =>
    if c = byte ']' then .ok rest
    else if c = byte ',' then
      match skipSpace rest with
      | [] => faultOn .trailingCharacters []
      | d :: after =>
        if d = byte ']' then faultOn .trailingComma (d :: after)
        else faultOn .trailingCharacters (d :: after)
    else faultOn .trailingCharacters (c :: rest)

/-- What is left after an attempt to close something, whether it succeeds or not. -/
def afterClosing (close : Bytes → Except Fault Bytes) (b : Bytes) : Bytes :=
  match close b with
  | .ok rest => rest
  | .error fault => fault.rest

/-- A fault inside a list or an object: its position stays, and an attempt is made to close what it
lies in. -/
def closing {α : Type} (close : Bytes → Except Fault Bytes) :
    Except Fault α → Except Fault α
  | .ok a => .ok a
  | .error fault => .error { fault with rest := afterClosing close fault.rest }

/-! ## Values -/

/-- The value of another type that comes next, as a mismatch behind it; lists and objects are not
entered. -/
def wrongType {α : Type} (expected : String) (b : Bytes) : Except Fault α :=
  let mismatch := fun (found : Found) (rest : Bytes) =>
    faultAt (.mismatch (.type found expected)) rest
  match b with
  | [] => faultOn .expectedValue []
  | c :: rest =>
    if c = byte 'n' then do mismatch .null (← readWord (word "ull") rest)
    else if c = byte 't' then do mismatch (.bool true) (← readWord (word "rue") rest)
    else if c = byte 'f' then do mismatch (.bool false) (← readWord (word "alse") rest)
    else if c = byte '-' then do
      let (n, rest) ← readNumber true rest
      mismatch (.number n) rest
    else if isDigit c then do
      let (n, rest) ← readNumber false (c :: rest)
      mismatch (.number n) rest
    else if c = byte '"' then do
      let (s, rest) ← readTextTail rest
      mismatch (.text s) rest
    else if c = byte '[' then mismatch .sequence (c :: rest)
    else if c = byte '\x7b' then mismatch .map (c :: rest)
    else faultOn .expectedValue (c :: rest)

/-- Reads text. -/
def readText : Reader String := fun b =>
  match skipSpace b with
  | [] => faultOn .endInValue []
  | c :: rest => if c = byte '"' then readTextTail rest else wrongType "a string" (c :: rest)

/-- The number as a whole one of 64 bits with a sign. -/
def toInt64 (n : Number) (rest : Bytes) : Except Fault (Int × Bytes) :=
  match n with
  | .int i =>
    if i ≤ 9223372036854775807 then .ok (i, rest)
    else faultAt (.mismatch (.value (.number n) "i64")) rest
  | .float _ _ => faultAt (.mismatch (.type (.number n) "i64")) rest

/-- Reads a whole number of 64 bits with a sign. -/
def readInt64 : Reader Int := fun b =>
  match skipSpace b with
  | [] => faultOn .endInValue []
  | c :: rest =>
    if c = byte '-' then do
      let (n, rest) ← readNumber true rest
      toInt64 n rest
    else if isDigit c then do
      let (n, rest) ← readNumber false (c :: rest)
      toInt64 n rest
    else wrongType "i64" (c :: rest)

/-- Reads a value, or null for none. -/
def readOption {α : Type} (read : Reader α) : Reader (Option α) := fun b =>
  match skipSpace b with
  | c :: rest =>
    if c = byte 'n' then do return (none, ← readWord (word "ull") rest)
    else (read (c :: rest)).map fun p => (some p.1, p.2)
  | [] => (read []).map fun p => (some p.1, p.2)

/-- Reads elements until the end of the list. -/
def readElements {α : Type} (read : Reader α) :
    Nat → Bool → Bytes → Except Fault (List α × Bytes)
  | 0, _, b => faultAt .endInList b
  | fuel + 1, first, b => do
    let (more, b) ← nextElement first b
    if more then
      let (a, b) ← read b
      let (as, b) ← readElements read fuel false b
      return (a :: as, b)
    else return ([], b)

/-- Reads members until the end of the object. -/
def readMembers {α : Type} (read : Reader α) :
    Nat → Bool → Bytes → Except Fault (List (String × α) × Bytes)
  | 0, _, b => faultAt .endInObject b
  | fuel + 1, first, b => do
    let (key, b) ← nextKey first b
    match key with
    | none => return ([], b)
    | some inside =>
      let (name, b) ← readTextTail inside
      let b ← readColon b
      let (a, b) ← read b
      let (as, b) ← readMembers read fuel false b
      return ((name, a) :: as, b)

/-- Reads a list behind its bracket. -/
def readList {α : Type} (read : Reader α) (b : Bytes) : Except Fault (List α × Bytes) := do
  let (as, b) ← closing closeList (readElements read (b.length + 1) true b)
  return (as, ← closeList b)

/-- Reads an object behind its brace. -/
def readObject {α : Type} (read : Reader α) (b : Bytes) :
    Except Fault (List (String × α) × Bytes) := do
  let (as, b) ← closing closeObject (readMembers read (b.length + 1) true b)
  return (as, ← closeObject b)

/-- Reads any value, with given readers for lists and objects, which get the opening bracket or
brace and what is behind it. -/
def readValueWith (list object : UInt8 → Reader Value) : Reader Value := fun b =>
  match skipSpace b with
  | [] => faultOn .endInValue []
  | c :: rest =>
    if c = byte 'n' then do return (.null, ← readWord (word "ull") rest)
    else if c = byte 't' then do return (.bool true, ← readWord (word "rue") rest)
    else if c = byte 'f' then do return (.bool false, ← readWord (word "alse") rest)
    else if c = byte '-' then (readNumber true rest).map fun p => (.number p.1, p.2)
    else if isDigit c then
      (readNumber false (c :: rest)).map fun p => (.number p.1, p.2)
    else if c = byte '"' then (readTextTail rest).map fun p => (.text p.1, p.2)
    else if c = byte '[' then list c rest
    else if c = byte '\x7b' then object c rest
    else faultOn .expectedValue (c :: rest)

/-- Reads any value whose lists and objects are nested at most so deep. -/
def readValue : Nat → Reader Value
  | 0 =>
    let tooDeep := fun c rest => faultOn .tooDeep (c :: rest)
    readValueWith tooDeep tooDeep
  | depth + 1 =>
    readValueWith
      (fun _ rest => (readList (readValue depth) rest).map fun p => (.array p.1, p.2))
      (fun _ rest => (readObject (readValue depth) rest).map fun p => (.object p.1, p.2))

/-- How deep lists and objects may be nested in a document. -/
def depthLimit : Nat := 127

/-- Reads a whole input: a value, with nothing behind it. -/
def readAll {α : Type} (read : Reader α) (input : Bytes) : Except Fault α := do
  let (a, rest) ← read input
  match skipSpace rest with
  | [] => .ok a
  | c :: rest => faultOn .trailingCharacters (c :: rest)

/-- The value of a document. -/
def parse (input : Bytes) : Except Fault Value := readAll (readValue depthLimit) input

end SessionAuth.Json
