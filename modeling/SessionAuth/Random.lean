import SessionAuth.Encoding.Bytes

/-!
The source of random bytes. A source delivers the bytes of an endless sequence, one after the other,
and may be limited in how many it still delivers; a request for more than that fails and takes
nothing.

Nothing is asked of the sequence: what holds for every source holds whatever bytes are drawn. One
family of sequences can be written down as a number, the seed of a generator.
-/

set_option autoImplicit false

namespace SessionAuth

/-- An endless sequence of bytes. -/
structure ByteStream where
  byte : Nat → UInt8

namespace ByteStream

/-- The first bytes. -/
def take (s : ByteStream) (n : Nat) : Bytes := (List.range n).map s.byte

/-- The sequence behind the first bytes. -/
def drop (s : ByteStream) (n : Nat) : ByteStream := ⟨fun k => s.byte (n + k)⟩

@[simp] theorem length_take (s : ByteStream) (n : Nat) : (s.take n).length = n := by
  simp [take]

/-! ## Generated sequences -/

/-- One step of the linear congruential generator. -/
def step (x : UInt64) : UInt64 := x * 6364136223846793005 + 1442695040888963407

/-- Where the generator is after so many steps. -/
def position (seed : UInt64) : Nat → UInt64
  | 0 => seed
  | n + 1 => step (position seed n)

/-- The sequence of a seed: each byte is the highest one of the next position. -/
def ofSeed (seed : UInt64) : ByteStream := ⟨fun k => (position seed (k + 1) >>> 56).toUInt8⟩

instance : Coe UInt64 ByteStream := ⟨ofSeed⟩

end ByteStream

/-- A source of random bytes. -/
structure RandomSource where
  /-- The bytes that are still to come. -/
  bytes : ByteStream
  /-- How many of them can still be read; none for no limit. -/
  limit : Option Nat

namespace RandomSource

/-- Whether so many bytes can be read. -/
def canRead (r : RandomSource) (n : Nat) : Bool :=
  match r.limit with
  | none => true
  | some left => n ≤ left

/-- Reads bytes, or fails and leaves the source as it is. -/
def draw? (r : RandomSource) (n : Nat) : Option (Bytes × RandomSource) :=
  if r.canRead n then some (r.bytes.take n, ⟨r.bytes.drop n, r.limit.map (· - n)⟩) else none

/-- What is drawn has the requested length. -/
theorem length_of_draw? {r s : RandomSource} {n : Nat} {b : Bytes} (h : r.draw? n = some (b, s)) :
    b.length = n := by
  unfold draw? at h
  split at h
  · simp only [Option.some.injEq, Prod.mk.injEq] at h
    rw [← h.1, ByteStream.length_take]
  · contradiction

/-- Nothing is drawn exactly where so many bytes cannot be read. -/
theorem draw?_eq_none_iff {r : RandomSource} {n : Nat} :
    r.draw? n = none ↔ r.canRead n = false := by
  unfold draw?
  split
  · rename_i hcan
    rw [hcan]
    exact ⟨nofun, nofun⟩
  · exact ⟨fun _ => Bool.eq_false_iff.mpr ‹_›, fun _ => rfl⟩

end RandomSource

end SessionAuth
