import SessionAuth.Decimal.Digits
import SessionAuth.Encoding.Hex
import SessionAuth.Random
import SessionAuth.Text.Utf8

/-!
Universally unique identifiers: sixteen bytes, written as 32 hexadecimal digits in five groups.

Reading accepts the grouped form, alone, in braces or behind `urn:uuid:`, and the 32 digits without
hyphens. A refused text is examined for the first thing that is wrong with it: a character, then
the number of groups, then the length of a group.
-/

set_option autoImplicit false

namespace SessionAuth

/-- Sixteen bytes. -/
structure Uuid where
  bytes : Bytes
  length_bytes : bytes.length = 16
  deriving DecidableEq, Repr

namespace Uuid

/-! ## Making -/

/-- The identifier of sixteen bytes; anything else is cut or filled up with zeros. -/
def ofBytes (b : Bytes) : Uuid :=
  ⟨(b ++ List.replicate 16 0).take 16, by simp⟩

/-- The identifier whose bytes are a number, highest byte first. -/
def ofNat (n : Nat) : Uuid :=
  ⟨(List.range 16).map fun i => UInt8.ofNat (n / Nat.pow 256 (15 - i)), by simp⟩

/-- Marks sixteen bytes as a random identifier: the version is four, the variant is ten in
binary. -/
def marked (b : Bytes) : Uuid :=
  let version : UInt8 := 0x40 ||| (b.getD 6 0 &&& 0x0f)
  let variant : UInt8 := 0x80 ||| (b.getD 8 0 &&& 0x3f)
  ofBytes ((b.set 6 version).set 8 variant)

/-- Draws a random identifier from sixteen bytes of the source, which fill it from its end. -/
def random? (r : RandomSource) : Option (Uuid × RandomSource) := do
  let (b, r) ← r.draw? 16
  return (marked b.reverse, r)

/-! ## Writing -/

/-- Two digits for each byte, in groups of 8, 4, 4, 4 and 12. -/
def toChars (u : Uuid) : List Char :=
  let part := fun first count => Hex.encode ((u.bytes.drop first).take count)
  part 0 4 ++ '-' :: part 4 2 ++ '-' :: part 6 2 ++ '-' :: part 8 2 ++ '-' :: part 10 6

/-- The text of an identifier. -/
def toText (u : Uuid) : String := String.ofList u.toChars

/-! ## Reading -/

/-- Why a text is no identifier. -/
inductive Flaw where
  /-- A character that is neither a digit nor a hyphen, at an offset in bytes. -/
  | character (c : Char) (offset : Nat)
  /-- Digits only, or too much text, but not the right amount. -/
  | length (found : Nat)
  /-- Hyphens, but not four of them. -/
  | groupCount (found : Nat)
  /-- A group of the wrong length. -/
  | groupLength (group expected found : Nat)
  deriving DecidableEq, Repr

/-- The wording of a cause. -/
def Flaw.message : Flaw → String
  | .character c offset =>
    "invalid character: found " ++ String.ofList ['\x60', c, '\x60'] ++ " at " ++
      Decimal.toText offset
  | .length found => "invalid length: found " ++ Decimal.toText found
  | .groupCount found => "invalid group count: expected 5, found " ++ Decimal.toText found
  | .groupLength group expected found =>
    "invalid group length in group " ++ Decimal.toText group ++ ": expected " ++
      Decimal.toText expected ++ ", found " ++ Decimal.toText found

/-- Where the groups start in the grouped form. -/
def groupStarts : List Nat := [0, 9, 14, 19, 24]

/-- The lengths of the groups. -/
def groupLengths : List Nat := [8, 4, 4, 4, 12]

/-- The text behind `urn:uuid:`, in any case. -/
def afterUrn? (l : List Char) : Option (List Char) :=
  if (l.take 9).map Char.toLower = "urn:uuid:".toList then some (l.drop 9) else none

/-- The text between braces. -/
def insideBraces? : List Char → Option (List Char)
  | '\x7b' :: rest => if rest.getLast? = some '\x7d' then some rest.dropLast else none
  | _ => none

/-- The first character, at or behind an offset in bytes, that cannot stand in an identifier. -/
def strayCharacter? : Nat → List Char → Option Flaw
  | _, [] => none
  | offset, c :: rest =>
    if c = '-' ∨ (Hex.value? c).isSome then strayCharacter? (offset + 1) rest
    else some (.character c offset)

/-- The offsets of the hyphens, counted from a start. -/
def hyphensFrom : Nat → List Char → List Nat
  | _, [] => []
  | n, c :: rest => if c = '-' then n :: hyphensFrom (n + 1) rest else hyphensFrom (n + 1) rest

/-- The offsets of the hyphens. -/
def hyphens (l : List Char) : List Nat := hyphensFrom 0 l

/-- The first group of the wrong length, given where the hyphens are that close the first four. -/
def wrongGroup (length : Nat) : Nat → List Nat → List Nat → Flaw
  | group, start :: next :: starts, bound :: bounds =>
    if bound + 1 = next then wrongGroup length (group + 1) (next :: starts) bounds
    else .groupLength group (groupLengths.getD group 0) (bound - start)
  | group, start :: _, _ => .groupLength group (groupLengths.getD group 0) (length - start)
  | group, [], _ => .groupLength group 0 length

/-- What is wrong with a text that is no identifier. Offsets count the wrapping. -/
def diagnose (l : List Char) : Flaw :=
  let length := (Utf8.encode l).length
  let (inner, offset, bare) :=
    match insideBraces? l with
    | some inner => (inner, 1, false)
    | none =>
      match afterUrn? l with
      | some inner => (inner, 9, false)
      | none => (l, 0, true)
  match strayCharacter? offset inner with
  | some flaw => flaw
  | none =>
    let bounds := hyphens inner
    if bounds.isEmpty ∧ bare then .length length
    else if bounds.length ≠ 4 then .groupCount (bounds.length + 1)
    else wrongGroup length 0 groupStarts bounds

/-- The identifier with exactly these digits. -/
def ofDigits? (l : List Char) : Option Uuid := do
  let b ← Hex.decode? l
  if h : b.length = 16 then some ⟨b, h⟩ else none

/-- Reads the grouped form. -/
def parseGrouped? (l : List Char) : Option Uuid :=
  if hyphens l = [8, 13, 18, 23] then ofDigits? (l.filter (· != '-')) else none

/-- Reads an identifier. -/
def parse (s : String) : Except Flaw Uuid :=
  let l := s.toList
  let length := (Utf8.encode l).length
  let grouped := fun inner => (parseGrouped? inner).elim (.error (diagnose inner)) .ok
  if 45 < length then .error (.length length)
  else if length = 32 then (ofDigits? l).elim (.error (diagnose l)) .ok
  else if length = 36 then grouped l
  else
    match length, insideBraces? l, afterUrn? l with
    | 38, some inner, _ => grouped inner
    | 45, _, some inner => grouped inner
    | _, _, _ => .error (diagnose l)

end Uuid

end SessionAuth
