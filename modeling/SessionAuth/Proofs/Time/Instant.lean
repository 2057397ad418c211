import SessionAuth.Decimal.Word
import SessionAuth.Time.Instant

/-!
Dates of lifetimes, and times in coarser measures.

A lifetime is added to the clock in nanoseconds, and the sum has a date or is refused. From then on less is
kept of it. A database stores and shows whole microseconds: a time that is whole is stored as it is, and
the clock of the database reaches it at the same moment as that of the service. A token is signed in whole
seconds, which are few enough for a signed word of 64 bits.
-/

set_option autoImplicit false

namespace SessionAuth

/-! ## Dates -/

theorem Instant.after?_ne_none_iff {now : Instant} {d : Duration} :
    now.after? d ≠ none
      ↔ d.nanoseconds ≤ Duration.longest.nanoseconds
        ∧ HasDate ⟨now.nanoseconds + d.nanoseconds⟩ := by
  rw [Option.ne_none_iff_exists']
  constructor
  · rintro ⟨ends, h⟩
    obtain ⟨hlong, hdate, rfl⟩ := after?_eq_some_iff.mp h
    exact ⟨hlong, hdate⟩
  · rintro ⟨hlong, hdate⟩
    exact ⟨_, after?_eq_some_iff.mpr ⟨hlong, hdate, rfl⟩⟩

/-! ## Microseconds -/

/-- A whole number of microseconds. -/
def Instant.IsWhole (t : Instant) : Prop := t.floorMicros = t

instance (t : Instant) : Decidable t.IsWhole := inferInstanceAs (Decidable (_ = _))

theorem Instant.IsWhole.towardStorageEpoch {t : Instant} (h : t.IsWhole) :
    t.towardStorageEpoch = t := by
  have hmicros : t.nanoseconds / 1000 * 1000 = t.nanoseconds := congrArg Instant.nanoseconds h
  have hepoch : Instant.storageEpoch.nanoseconds = 946684800000000 * 1000 := by decide
  unfold Instant.towardStorageEpoch
  rw [hepoch, ← hmicros, ← Int.sub_mul, Int.mul_tdiv_cancel _ (by decide), ← Int.add_mul,
    Int.sub_add_cancel, hmicros]

theorem Instant.towardStorageEpoch_isWhole (t : Instant) : t.towardStorageEpoch.IsWhole := by
  refine congrArg Instant.mk ?_
  have hepoch : Instant.storageEpoch.nanoseconds = 946684800000000 * 1000 := by decide
  show (_ * 1000 + Instant.storageEpoch.nanoseconds) / 1000 * 1000 = _
  rw [hepoch, ← Int.add_mul, Int.mul_ediv_cancel _ (by decide)]

/-- **The whole times are those that are stored as they are.** -/
theorem Instant.towardStorageEpoch_eq_self_iff {t : Instant} :
    t.towardStorageEpoch = t ↔ t.IsWhole :=
  ⟨fun h => h ▸ t.towardStorageEpoch_isWhole, IsWhole.towardStorageEpoch⟩

theorem Instant.floorMicros_lt_of_lt {now t : Instant} (hlt : now < t) : now.floorMicros < t := by
  have hlt' : now.nanoseconds < t.nanoseconds := hlt
  show now.nanoseconds / 1000 * 1000 < t.nanoseconds
  omega

/-- **The two clocks reach a whole time at the same moment.** -/
theorem Instant.floorMicros_lt_iff {now t : Instant} (h : t.IsWhole) :
    now.floorMicros < t ↔ now < t := by
  refine ⟨fun hlt => ?_, floorMicros_lt_of_lt⟩
  have hmicros : t.nanoseconds / 1000 * 1000 = t.nanoseconds := congrArg Instant.nanoseconds h
  have hlt' : now.nanoseconds / 1000 * 1000 < t.nanoseconds := hlt
  show now.nanoseconds < t.nanoseconds
  omega

/-! ## Seconds -/

/-- **The whole seconds of a time**: the last of them that does not lie behind it. -/
def IsFloor (seconds nanoseconds : Int) : Prop :=
  seconds * nanosPerSecond ≤ nanoseconds ∧ nanoseconds < (seconds + 1) * nanosPerSecond

theorem Instant.isFloor_seconds (t : Instant) : IsFloor t.seconds t.nanoseconds := by
  unfold IsFloor Instant.seconds nanosPerSecond
  omega

theorem Duration.isFloor_seconds (d : Duration) : IsFloor d.seconds d.nanoseconds := by
  unfold IsFloor Duration.seconds nanosPerSecond
  omega

/-- An instant from which a lifetime leads to a date can be written in whole seconds, and so can the
date. -/
theorem Instant.seconds_of_after? {now ends : Instant} {lifetime : Duration}
    (h : now.after? lifetime = some ends) :
    Decimal.isSignedWord now.seconds = true ∧ Decimal.isSignedWord ends.seconds = true := by
  obtain ⟨hlong, ⟨hfirst, hlast⟩, rfl⟩ := after?_eq_some_iff.mp h
  -- dates are bounded, and their seconds are few for a signed word
  rw [le_def] at hfirst hlast
  simp only [first, last, ofSeconds, ofParts, Duration.longest, Duration.ofMillis,
    nanosPerSecond] at hfirst hlast hlong
  refine ⟨decide_eq_true ?_, decide_eq_true ?_⟩
  · unfold seconds nanosPerSecond
    omega
  · unfold seconds nanosPerSecond
    dsimp only
    omega

/-- What the bits of an unsigned word are as a signed one: nothing else, where a lifetime is counted that
leads to a date. -/
theorem Duration.seconds_narrowed {d : Duration} (h : d.nanoseconds ≤ longest.nanoseconds) :
    (UInt64.ofNat d.seconds).toInt64.toInt = d.seconds := by
  have hfew : d.seconds < 2 ^ 63 := by
    unfold seconds
    simp only [longest, ofMillis, nanosPerSecond] at h ⊢
    omega
  have hword : (UInt64.ofNat d.seconds).toBitVec.toNat = d.seconds :=
    Nat.mod_eq_of_lt (by omega)
  show (UInt64.ofNat d.seconds).toBitVec.toInt = d.seconds
  rw [BitVec.toInt_eq_toNat_of_lt (by omega), hword]

end SessionAuth
