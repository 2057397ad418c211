import SessionAuth.Encoding.Bytes
import SessionAuth.Hash.Blake2b

/-!
The memory-hard password hash Argon2id, version 1.3.

A block of 1024 bytes is kept as eight rows of sixteen words. The mixing function permutes the rows,
turns the block over so that pairs of words change places across the diagonal, permutes again and
turns it back. Memory is one array of blocks, lane after lane; it is filled in passes of four slices,
and only the first half of the first pass chooses its reference blocks without looking at the data.
-/

set_option autoImplicit false

namespace SessionAuth.Argon2id

/-! ## Blocks -/

/-- Sixteen words. -/
structure Row where
  w₀ : UInt64
  w₁ : UInt64
  w₂ : UInt64
  w₃ : UInt64
  w₄ : UInt64
  w₅ : UInt64
  w₆ : UInt64
  w₇ : UInt64
  w₈ : UInt64
  w₉ : UInt64
  w₁₀ : UInt64
  w₁₁ : UInt64
  w₁₂ : UInt64
  w₁₃ : UInt64
  w₁₄ : UInt64
  w₁₅ : UInt64

/-- Eight rows: 1024 bytes. -/
structure Block where
  r₀ : Row
  r₁ : Row
  r₂ : Row
  r₃ : Row
  r₄ : Row
  r₅ : Row
  r₆ : Row
  r₇ : Row

/-- The product of the low halves of two words. -/
@[inline] def lowProduct (x y : UInt64) : UInt64 := (x &&& 0xffffffff) * (y &&& 0xffffffff)

/-- Mixes four words. -/
@[inline] def mix {α : Type} (a b c d : UInt64)
    (k : UInt64 → UInt64 → UInt64 → UInt64 → α) : α :=
  let a := a + b + 2 * lowProduct a b
  let d := Blake2b.rotr (d ^^^ a) 32
  let c := c + d + 2 * lowProduct c d
  let b := Blake2b.rotr (b ^^^ c) 24
  let a := a + b + 2 * lowProduct a b
  let d := Blake2b.rotr (d ^^^ a) 16
  let c := c + d + 2 * lowProduct c d
  let b := Blake2b.rotr (b ^^^ c) 63
  k a b c d

/-- Permutes sixteen words: the columns of a square of four by four, then its diagonals. -/
def Row.permute (r : Row) : Row :=
  mix r.w₀ r.w₄ r.w₈ r.w₁₂ fun a₀ b₀ c₀ d₀ =>
  mix r.w₁ r.w₅ r.w₉ r.w₁₃ fun a₁ b₁ c₁ d₁ =>
  mix r.w₂ r.w₆ r.w₁₀ r.w₁₄ fun a₂ b₂ c₂ d₂ =>
  mix r.w₃ r.w₇ r.w₁₁ r.w₁₅ fun a₃ b₃ c₃ d₃ =>
  mix a₀ b₁ c₂ d₃ fun a₀ b₁ c₂ d₃ =>
  mix a₁ b₂ c₃ d₀ fun a₁ b₂ c₃ d₀ =>
  mix a₂ b₃ c₀ d₁ fun a₂ b₃ c₀ d₁ =>
  mix a₃ b₀ c₁ d₂ fun a₃ b₀ c₁ d₂ =>
  ⟨a₀, a₁, a₂, a₃, b₀, b₁, b₂, b₃, c₀, c₁, c₂, c₃, d₀, d₁, d₂, d₃⟩

/-- Combines two rows word by word. -/
def Row.xor (p q : Row) : Row :=
  ⟨p.w₀ ^^^ q.w₀, p.w₁ ^^^ q.w₁, p.w₂ ^^^ q.w₂, p.w₃ ^^^ q.w₃,
    p.w₄ ^^^ q.w₄, p.w₅ ^^^ q.w₅, p.w₆ ^^^ q.w₆, p.w₇ ^^^ q.w₇,
    p.w₈ ^^^ q.w₈, p.w₉ ^^^ q.w₉, p.w₁₀ ^^^ q.w₁₀, p.w₁₁ ^^^ q.w₁₁,
    p.w₁₂ ^^^ q.w₁₂, p.w₁₃ ^^^ q.w₁₃, p.w₁₄ ^^^ q.w₁₄, p.w₁₅ ^^^ q.w₁₅⟩

/-- Combines two blocks word by word. -/
def Block.xor (p q : Block) : Block :=
  ⟨p.r₀.xor q.r₀, p.r₁.xor q.r₁,
    p.r₂.xor q.r₂, p.r₃.xor q.r₃,
    p.r₄.xor q.r₄, p.r₅.xor q.r₅,
    p.r₆.xor q.r₆, p.r₇.xor q.r₇⟩

/-- Permutes every row. -/
def Block.permuteRows (b : Block) : Block :=
  ⟨b.r₀.permute, b.r₁.permute, b.r₂.permute, b.r₃.permute,
    b.r₄.permute, b.r₅.permute, b.r₆.permute, b.r₇.permute⟩

/-- Turns the block over: pair `i` of row `j` becomes pair `j` of row `i`. -/
def Block.transpose (b : Block) : Block :=
  ⟨⟨b.r₀.w₀, b.r₀.w₁, b.r₁.w₀, b.r₁.w₁, b.r₂.w₀, b.r₂.w₁, b.r₃.w₀, b.r₃.w₁,
      b.r₄.w₀, b.r₄.w₁, b.r₅.w₀, b.r₅.w₁, b.r₆.w₀, b.r₆.w₁, b.r₇.w₀, b.r₇.w₁⟩,
    ⟨b.r₀.w₂, b.r₀.w₃, b.r₁.w₂, b.r₁.w₃, b.r₂.w₂, b.r₂.w₃, b.r₃.w₂, b.r₃.w₃,
      b.r₄.w₂, b.r₄.w₃, b.r₅.w₂, b.r₅.w₃, b.r₆.w₂, b.r₆.w₃, b.r₇.w₂, b.r₇.w₃⟩,
    ⟨b.r₀.w₄, b.r₀.w₅, b.r₁.w₄, b.r₁.w₅, b.r₂.w₄, b.r₂.w₅, b.r₃.w₄, b.r₃.w₅,
      b.r₄.w₄, b.r₄.w₅, b.r₅.w₄, b.r₅.w₅, b.r₆.w₄, b.r₆.w₅, b.r₇.w₄, b.r₇.w₅⟩,
    ⟨b.r₀.w₆, b.r₀.w₇, b.r₁.w₆, b.r₁.w₇, b.r₂.w₆, b.r₂.w₇, b.r₃.w₆, b.r₃.w₇,
      b.r₄.w₆, b.r₄.w₇, b.r₅.w₆, b.r₅.w₇, b.r₆.w₆, b.r₆.w₇, b.r₇.w₆, b.r₇.w₇⟩,
    ⟨b.r₀.w₈, b.r₀.w₉, b.r₁.w₈, b.r₁.w₉, b.r₂.w₈, b.r₂.w₉, b.r₃.w₈, b.r₃.w₉,
      b.r₄.w₈, b.r₄.w₉, b.r₅.w₈, b.r₅.w₉, b.r₆.w₈, b.r₆.w₉, b.r₇.w₈, b.r₇.w₉⟩,
    ⟨b.r₀.w₁₀, b.r₀.w₁₁, b.r₁.w₁₀, b.r₁.w₁₁, b.r₂.w₁₀, b.r₂.w₁₁, b.r₃.w₁₀, b.r₃.w₁₁,
      b.r₄.w₁₀, b.r₄.w₁₁, b.r₅.w₁₀, b.r₅.w₁₁, b.r₆.w₁₀, b.r₆.w₁₁, b.r₇.w₁₀, b.r₇.w₁₁⟩,
    ⟨b.r₀.w₁₂, b.r₀.w₁₃, b.r₁.w₁₂, b.r₁.w₁₃, b.r₂.w₁₂, b.r₂.w₁₃, b.r₃.w₁₂, b.r₃.w₁₃,
      b.r₄.w₁₂, b.r₄.w₁₃, b.r₅.w₁₂, b.r₅.w₁₃, b.r₆.w₁₂, b.r₆.w₁₃, b.r₇.w₁₂, b.r₇.w₁₃⟩,
    ⟨b.r₀.w₁₄, b.r₀.w₁₅, b.r₁.w₁₄, b.r₁.w₁₅, b.r₂.w₁₄, b.r₂.w₁₅, b.r₃.w₁₄, b.r₃.w₁₅,
      b.r₄.w₁₄, b.r₄.w₁₅, b.r₅.w₁₄, b.r₅.w₁₅, b.r₆.w₁₄, b.r₆.w₁₅, b.r₇.w₁₄, b.r₇.w₁₅⟩⟩

/-- The compression of two blocks. -/
def compress (x y : Block) : Block :=
  let r := x.xor y
  r.permuteRows.transpose.permuteRows.transpose.xor r

/-- The block of sixteen-word rows all of which are the given one. -/
def Block.ofRow (r : Row) : Block := ⟨r, r, r, r, r, r, r, r⟩

/-- The row of zeros. -/
def Row.zero : Row := ⟨0, 0, 0, 0, 0, 0, 0, 0, 0, 0, 0, 0, 0, 0, 0, 0⟩

/-- The block of zeros. -/
def Block.zero : Block := .ofRow .zero

instance : Inhabited Block := ⟨.zero⟩

/-- The words of a row, in order. -/
def Row.toList (r : Row) : List UInt64 :=
  [r.w₀, r.w₁, r.w₂, r.w₃, r.w₄, r.w₅, r.w₆, r.w₇,
    r.w₈, r.w₉, r.w₁₀, r.w₁₁, r.w₁₂, r.w₁₃, r.w₁₄, r.w₁₅]

/-- The row of the first sixteen words of a list, missing words being zero. -/
def Row.ofList (l : List UInt64) : Row :=
  let m := l.toArray
  let x := fun i => m.getD i 0
  ⟨x 0, x 1, x 2, x 3, x 4, x 5, x 6, x 7,
    x 8, x 9, x 10, x 11, x 12, x 13, x 14, x 15⟩

/-- The words of a block, in order. -/
def Block.toList (b : Block) : List UInt64 :=
  [b.r₀, b.r₁, b.r₂, b.r₃, b.r₄, b.r₅, b.r₆, b.r₇].flatMap Row.toList

/-- The block of the first 128 words of a list. -/
def Block.ofList (l : List UInt64) : Block :=
  let row := fun i => Row.ofList (l.drop (16 * i))
  ⟨row 0, row 1, row 2, row 3, row 4, row 5, row 6, row 7⟩

/-- The bytes of a block. -/
def Block.toBytes (b : Block) : Bytes := b.toList.flatMap Bytes.ofUInt64LE

/-- The block of 1024 bytes. -/
def Block.ofBytes (b : Bytes) : Block := .ofList (Blake2b.words b)

/-! ## Parameters -/

/-- What a hash is computed from, next to the password and the salt. The cost is at least eight
blocks a lane. -/
structure Setting where
  /-- Memory in blocks of 1024 bytes. -/
  memory : Nat
  /-- Number of passes over the memory. -/
  passes : Nat
  /-- Number of lanes. -/
  lanes : Nat
  /-- Bytes of the result. -/
  outputLength : Nat
  /-- Data bound to the hash without being secret. -/
  associatedData : Bytes
  deriving DecidableEq, Repr

namespace Setting

/-- Blocks in a quarter of a lane. -/
def segmentLength (s : Setting) : Nat := s.memory / (4 * s.lanes)

/-- Blocks in a lane. -/
def laneLength (s : Setting) : Nat := 4 * s.segmentLength

/-- Blocks that are used. -/
def blockCount (s : Setting) : Nat := s.lanes * s.laneLength

end Setting

/-- The number that stands for the mixed mode of addressing. -/
def modeNumber : Nat := 2

/-- The version number, 1.3. -/
def versionNumber : Nat := 0x13

/-- A number as four bytes. -/
def number (n : Nat) : Bytes := Bytes.ofUInt32LE (UInt32.ofNat n)

/-- The digest of all inputs that the memory is started from. -/
def seed (s : Setting) (password salt : Bytes) : Bytes :=
  Blake2b.digest 64 <|
    number s.lanes ++ number s.outputLength ++ number s.memory ++ number s.passes ++
    number versionNumber ++ number modeNumber ++
    number password.length ++ password ++ number salt.length ++ salt ++
    number 0 ++ number s.associatedData.length ++ s.associatedData

/-! ## Which block is mixed in -/

/-- Where in the filling of the memory we are. -/
structure Position where
  pass : Nat
  slice : Nat
  lane : Nat
  /-- Index inside the segment. -/
  index : Nat

/-- In the first half of the first pass references do not depend on the data. -/
def Position.independent (p : Position) : Bool := p.pass == 0 && p.slice < 2

/-- The row that the pseudo-random words of a segment are drawn from, for a counter. -/
def addressInput (s : Setting) (p : Position) (counter : Nat) : Block :=
  let row : Row := .ofList <|
    [p.pass, p.lane, p.slice, s.blockCount, s.passes, modeNumber, counter].map UInt64.ofNat
  { Block.zero with r₀ := row }

/-- The 128 pseudo-random words for a counter. -/
def addresses (s : Setting) (p : Position) (counter : Nat) : Array UInt64 :=
  (compress .zero (compress .zero (addressInput s p counter))).toList.toArray

/-- How many blocks may be referred to from a position, in its own lane or in another one. -/
def referenceArea (s : Setting) (p : Position) (sameLane : Bool) : Nat :=
  -- from the second pass on, three segments have been filled: all but the one that is replaced now
  let finished := if p.pass = 0 then p.slice * s.segmentLength else s.laneLength - s.segmentLength
  if sameLane then finished + p.index - 1
  else if p.index = 0 then finished - 1 else finished

/-- The index in the array of the block that a pseudo-random word refers to. -/
def reference (s : Setting) (p : Position) (word : UInt64) : Nat :=
  -- in the very first slice the other lanes hold nothing yet
  let lane := if p.pass = 0 ∧ p.slice = 0 then p.lane else (word >>> 32).toNat % s.lanes
  let area := referenceArea s p (lane == p.lane)
  let x := (word &&& 0xffffffff).toNat
  -- squaring prefers blocks that were filled a short while ago
  let back := area * (x * x / 4294967296) / 4294967296
  let start :=
    if p.pass = 0 ∨ p.slice = 3 then 0 else (p.slice + 1) * s.segmentLength
  lane * s.laneLength + (start + (area - 1 - back)) % s.laneLength

/-! ## Filling the memory -/

/-- Fills the rest of a segment, `left` blocks of it. The words of the current counter are passed
along; they are renewed every 128 blocks. -/
def fillSegment (s : Setting) (pass slice lane : Nat) :
    Nat → Nat → Array UInt64 → Array Block → Array Block
  | 0, _, _, memory => memory
  | left + 1, index, words, memory =>
    let p : Position := ⟨pass, slice, lane, index⟩
    let column := slice * s.segmentLength + index
    let previous := memory.getD
      (lane * s.laneLength + (if column = 0 then s.laneLength - 1 else column - 1)) .zero
    -- counters start at one
    let words := if p.independent ∧ index % 128 = 0 then addresses s p (index / 128 + 1) else words
    let word := if p.independent then words.getD (index % 128) 0 else previous.r₀.w₀
    let mixed := compress previous (memory.getD (reference s p word) .zero)
    let at_ := lane * s.laneLength + column
    -- later passes do not overwrite a block but add to it
    let block := if pass = 0 then mixed else mixed.xor (memory.getD at_ .zero)
    fillSegment s pass slice lane left (index + 1) words (memory.setIfInBounds at_ block)

/-- Fills one segment. The first two blocks of a lane are given before the first pass. -/
def fillWholeSegment (s : Setting) (pass slice lane : Nat) (memory : Array Block) : Array Block :=
  if pass = 0 ∧ slice = 0 then
    fillSegment s pass slice lane (s.segmentLength - 2) 2
      (addresses s ⟨pass, slice, lane, 2⟩ 1) memory
  else fillSegment s pass slice lane s.segmentLength 0 #[] memory

/-- Fills one slice of all lanes. -/
def fillSlice (s : Setting) (pass slice : Nat) (memory : Array Block) : Array Block :=
  (List.range s.lanes).foldl (fun m lane => fillWholeSegment s pass slice lane m) memory

/-- Makes all passes. -/
def fill (s : Setting) (memory : Array Block) : Array Block :=
  (List.range s.passes).foldl
    (fun m pass => [0, 1, 2, 3].foldl (fun m slice => fillSlice s pass slice m) m) memory

/-- The memory with the first two blocks of each lane set. -/
def start (s : Setting) (h : Bytes) : Array Block :=
  (List.range s.lanes).foldl
    (fun m lane =>
      let block := fun i => Block.ofBytes (Blake2b.extended 1024 (h ++ number i ++ number lane))
      (m.setIfInBounds (lane * s.laneLength) (block 0)).setIfInBounds
        (lane * s.laneLength + 1) (block 1))
    (Array.replicate s.blockCount .zero)

/-- The hash of a password under a salt. -/
def hash (s : Setting) (password salt : Bytes) : Bytes :=
  let memory := fill s (start s (seed s password salt))
  let last := (List.range s.lanes).foldl
    (fun (acc : Block) lane => acc.xor (memory.getD ((lane + 1) * s.laneLength - 1) .zero)) .zero
  Blake2b.extended s.outputLength last.toBytes

end SessionAuth.Argon2id
