/-!
Points in time and lengths of time, in whole nanoseconds.

An instant counts from the start of 1970, so that comparison and difference are those of the
integers. The calendar that instants are written in is bounded, and so is every sum that is formed
to become an expiry: adding a duration is refused where the sum has no date.
-/

set_option autoImplicit false

namespace SessionAuth

/-- Nanoseconds in a second. -/
def nanosPerSecond : Nat := 1000000000

/-- A length of time. -/
structure Duration where
  nanoseconds : Nat
  deriving DecidableEq, Repr

namespace Duration

/-- So many seconds. -/
def ofSeconds (n : Nat) : Duration := ⟨n * nanosPerSecond⟩

/-- So many milliseconds. -/
def ofMillis (n : Nat) : Duration := ⟨n * 1000000⟩

/-- Seconds and nanoseconds together. -/
def ofParts (seconds nanos : Nat) : Duration := ⟨seconds * nanosPerSecond + nanos⟩

/-- The whole seconds. -/
def seconds (d : Duration) : Nat := d.nanoseconds / nanosPerSecond

/-- The whole milliseconds. -/
def millis (d : Duration) : Nat := d.nanoseconds / 1000000

/-- The longest duration that can be added to an instant: the milliseconds of a signed 64-bit
number. -/
def longest : Duration := ofMillis 9223372036854775807

end Duration

/-- A point in time, in nanoseconds since the start of 1970. -/
structure Instant where
  nanoseconds : Int
  deriving DecidableEq, Repr

namespace Instant

instance : LE Instant := ⟨fun a b => a.nanoseconds ≤ b.nanoseconds⟩
instance : LT Instant := ⟨fun a b => a.nanoseconds < b.nanoseconds⟩
instance (a b : Instant) : Decidable (a ≤ b) :=
  inferInstanceAs (Decidable (a.nanoseconds ≤ b.nanoseconds))
instance (a b : Instant) : Decidable (a < b) :=
  inferInstanceAs (Decidable (a.nanoseconds < b.nanoseconds))

theorem le_def {a b : Instant} : a ≤ b ↔ a.nanoseconds ≤ b.nanoseconds := Iff.rfl
theorem lt_def {a b : Instant} : a < b ↔ a.nanoseconds < b.nanoseconds := Iff.rfl

/-- The instant at a whole second, and nanoseconds after it. -/
def ofParts (seconds : Int) (nanos : Nat) : Instant :=
  ⟨seconds * nanosPerSecond + nanos⟩

/-- The instant at a whole second. -/
def ofSeconds (seconds : Int) : Instant := ofParts seconds 0

/-- The whole seconds, rounded down. -/
def seconds (t : Instant) : Int := t.nanoseconds / nanosPerSecond

/-- The nanoseconds since the last whole second. -/
def subsecond (t : Instant) : Nat := (t.nanoseconds % nanosPerSecond).toNat

/-- The start of 1970. -/
def epoch : Instant := ⟨0⟩

/-- The first instant with a date: the start of the year −262143. -/
def first : Instant := ofSeconds (-8334601228800)

/-- The last instant with a date: the end of the year 262142. -/
def last : Instant := ofParts 8210266876799 999999999

/-- Whether an instant has a date. -/
def HasDate (t : Instant) : Prop := first ≤ t ∧ t ≤ last

instance (t : Instant) : Decidable t.HasDate := inferInstanceAs (Decidable (_ ∧ _))

/-- The instant, if it has a date. -/
def dated? (t : Instant) : Option Instant := if t.HasDate then some t else none

/-- The instant a duration later, if the duration can be added and the sum has a date. -/
def after? (t : Instant) (d : Duration) : Option Instant :=
  if d.nanoseconds ≤ Duration.longest.nanoseconds then dated? ⟨t.nanoseconds + d.nanoseconds⟩
  else none

theorem after?_eq_some_iff {t ends : Instant} {d : Duration} :
    t.after? d = some ends
      ↔ d.nanoseconds ≤ Duration.longest.nanoseconds ∧ ends.HasDate
        ∧ ends = ⟨t.nanoseconds + d.nanoseconds⟩ := by
  unfold after? dated?
  rw [Option.ite_none_right_eq_some, Option.ite_none_right_eq_some, Option.some.injEq]
  constructor
  · rintro ⟨hlong, hdate, rfl⟩
    exact ⟨hlong, hdate, rfl⟩
  · rintro ⟨hlong, hdate, rfl⟩
    exact ⟨hlong, hdate, rfl⟩

/-- The last whole microsecond. -/
def floorMicros (t : Instant) : Instant := ⟨t.nanoseconds / 1000 * 1000⟩

/-- The start of 2000, from which stored times are counted. -/
def storageEpoch : Instant := ofSeconds 946684800

/-- The whole microsecond next to an instant on the side of the start of 2000. -/
def towardStorageEpoch (t : Instant) : Instant :=
  ⟨(t.nanoseconds - storageEpoch.nanoseconds).tdiv 1000 * 1000 + storageEpoch.nanoseconds⟩

end Instant

end SessionAuth
