import SessionAuth.Decimal.Digits
import SessionAuth.Encoding.Hex
import SessionAuth.Text.Split

/-!
Internet addresses of both versions, as text.

An address of version 4 is written as four numbers between dots. One of version 6 is written as eight
groups in hexadecimal between colons, the first of the longest runs of at least two zero groups as two
colons; an address that stands for one of version 4 ends in that address.
-/

set_option autoImplicit false

namespace SessionAuth

/-- An internet address. -/
inductive IpAddress where
  | v4 (a b c d : UInt8)
  | v6 (groups : List UInt16) (length_groups : groups.length = 8)
  deriving DecidableEq, Repr

namespace IpAddress

/-! ## Writing -/

/-- Four numbers between dots. -/
def v4Chars (a b c d : UInt8) : List Char :=
  let n := fun (x : UInt8) => Decimal.digits x.toNat
  n a ++ '.' :: n b ++ '.' :: n c ++ '.' :: n d

/-- A group in hexadecimal, without leading zeros. -/
def groupChars (g : UInt16) : List Char := Nat.toDigits 16 g.toNat

/-- Groups between colons. -/
def groupsChars (gs : List UInt16) : List Char := List.intercalate [':'] (gs.map groupChars)

/-- Start and length of the first of the longest runs of zeros in a list, given where the list starts,
the longest run before it and the run that ends before it. -/
def longestZeros : Nat → Nat × Nat → Nat × Nat → List UInt16 → Nat × Nat
  | _, best, _, [] => best
  | i, best, current, g :: rest =>
    if g = 0 then
      let current := if current.2 = 0 then (i, 1) else (current.1, current.2 + 1)
      longestZeros (i + 1) (if best.2 < current.2 then current else best) current rest
    else longestZeros (i + 1) best (0, 0) rest

/-- Eight groups, shortened. -/
def v6Chars (gs : List UInt16) : List Char :=
  match gs with
  | [0, 0, 0, 0, 0, 0xffff, x, y] =>
    [':', ':', 'f', 'f', 'f', 'f', ':'] ++
      v4Chars (x >>> 8).toUInt8 x.toUInt8 (y >>> 8).toUInt8 y.toUInt8
  | _ =>
    let (start, length) := longestZeros 0 (0, 0) (0, 0) gs
    if 1 < length then
      groupsChars (gs.take start) ++ ':' :: ':' :: groupsChars (gs.drop (start + length))
    else groupsChars gs

/-- The characters of an address. -/
def toChars : IpAddress → List Char
  | .v4 a b c d => v4Chars a b c d
  | .v6 gs _ => v6Chars gs

/-- The text of an address. -/
def toText (a : IpAddress) : String := String.ofList a.toChars

/-! ## Reading -/

/-- Digits at the front of a text, with the value they add to a number, and how many there are. -/
def takeDigits (base : Nat) (value? : Char → Option Nat) :
    Nat → Nat → List Char → Nat × Nat × List Char
  | n, count, [] => (n, count, [])
  | n, count, c :: rest =>
    match value? c with
    | some v => takeDigits base value? (n * base + v) (count + 1) rest
    | none => (n, count, c :: rest)

/-- A number below 256 in at most three digits, without leading zeros. -/
def takeByte? (l : List Char) : Option (UInt8 × List Char) :=
  let (n, count, rest) := takeDigits 10 Decimal.value? 0 0 l
  if count = 0 ∨ 3 < count ∨ 255 < n ∨ (1 < count ∧ l.head? = some '0') then none
  else some (UInt8.ofNat n, rest)

/-- A given character. -/
def takeChar? (c : Char) : List Char → Option (List Char)
  | [] => none
  | d :: rest => if d = c then some rest else none

/-- An address of version 4 at the front of a text. -/
def takeV4? (l : List Char) : Option ((UInt8 × UInt8 × UInt8 × UInt8) × List Char) := do
  let (a, l) ← takeByte? l
  let (b, l) ← takeByte? (← takeChar? '.' l)
  let (c, l) ← takeByte? (← takeChar? '.' l)
  let (d, l) ← takeByte? (← takeChar? '.' l)
  return ((a, b, c, d), l)

/-- A group of one to four hexadecimal digits. -/
def takeGroup? (l : List Char) : Option (UInt16 × List Char) :=
  let (n, count, rest) := takeDigits 16 Hex.value? 0 0 l
  if count = 0 ∨ 4 < count then none else some (UInt16.ofNat n, rest)

/-- Two groups of four bytes. -/
def pairGroups (a b c d : UInt8) : List UInt16 :=
  [UInt16.ofNat (a.toNat * 256 + b.toNat), UInt16.ofNat (c.toNat * 256 + d.toNat)]

/-- The text behind the colon that leads a group, except the first one. -/
def behindColon? (first : Bool) (l : List Char) : Option (List Char) :=
  if first then some l else takeChar? ':' l

/-- Groups at the front of a text, at most so many, and whether the last two are written as an address
of version 4, which takes the room of two. -/
def takeGroups : Nat → Bool → List Char → List UInt16 × Bool × List Char
  | 0, _, l => ([], false, l)
  | room + 1, first, l =>
    let v4 := if room = 0 then none else (behindColon? first l).bind takeV4?
    match v4 with
    | some ((a, b, c, d), rest) => (pairGroups a b c d, true, rest)
    | none =>
      match (behindColon? first l).bind takeGroup? with
      | none => ([], false, l)
      | some (g, rest) =>
        let (gs, inV4, rest) := takeGroups room false rest
        (g :: gs, inV4, rest)

/-- An address of version 6. -/
def parseV6? (l : List Char) : Option IpAddress :=
  let (head, headV4, rest) := takeGroups 8 true l
  if h : head.length = 8 then (if rest.isEmpty then some (.v6 head h) else none)
  else if headV4 then none
  else do
    let rest ← takeChar? ':' (← takeChar? ':' rest)
    let (tail, _, rest) := takeGroups (7 - head.length) true rest
    let groups := head ++ List.replicate (8 - head.length - tail.length) 0 ++ tail
    if h : groups.length = 8 then (if rest.isEmpty then some (.v6 groups h) else none)
    else none

/-- An address of version 4. -/
def parseV4? (l : List Char) : Option IpAddress :=
  match takeV4? l with
  | some ((a, b, c, d), []) => some (.v4 a b c d)
  | _ => none

/-- Reads an address. -/
def parse? (s : String) : Option IpAddress :=
  match parseV4? s.toList with
  | some a => some a
  | none => parseV6? s.toList

/-- The address of an endpoint: an address and a port behind a colon, one of version 6 in brackets. -/
def ofEndpoint? (s : String) : Option IpAddress := do
  let (address, _) ← Text.splitAtLast? ':' s.toList
  match address with
  | '[' :: inside => parseV6? (inside.dropLast.takeWhile (· != '%'))
  | _ => parseV4? address

end IpAddress

end SessionAuth
