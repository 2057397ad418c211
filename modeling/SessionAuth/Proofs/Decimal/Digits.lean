import Mathlib.Algebra.Group.Nat.Defs
import SessionAuth.Decimal.Digits

/-!
Numbers in decimal digits read back.

`Spells` says which lists of digits stand for a number: those of its quotient by ten, followed by the
last digit. That the digits are written without a leading zero, that they are few, and that reading
them leads to the number are all proved from it by induction, so that a reader of another kind (of
bytes, with a bound) needs no more than `Spells` either.
-/

set_option autoImplicit false

namespace SessionAuth.Decimal

/-! ## Lists of digits -/

/-- **The digits that a number is written with**, the highest one first. -/
inductive Spells : List Nat → Nat → Prop where
  | single {n : Nat} (h : n < 10) : Spells [n] n
  | snoc {ds : List Nat} {n d : Nat} (h : Spells ds n) (hn : 0 < n) (hd : d < 10) :
      Spells (ds ++ [d]) (n * 10 + d)

/-- What digits add to a number that they are read behind. -/
def valueFrom (n : Nat) (ds : List Nat) : Nat := ds.foldl (fun n d => n * 10 + d) n

theorem le_valueFrom (n : Nat) (ds : List Nat) : n ≤ valueFrom n ds := by
  induction ds generalizing n with
  | nil => exact Nat.le_refl n
  | cons d ds ih =>
    have h := ih (n * 10 + d)
    show n ≤ valueFrom (n * 10 + d) ds
    omega

namespace Spells

variable {ds : List Nat} {n : Nat}

theorem lt_ten (h : Spells ds n) : ∀ d ∈ ds, d < 10 := by
  induction h with
  | single h => simpa using h
  | snoc _ _ hd ih =>
    intro d hmem
    rcases List.mem_append.mp hmem with hmem | hmem
    · exact ih d hmem
    · rw [List.mem_singleton.mp hmem]
      exact hd

theorem value (h : Spells ds n) : valueFrom 0 ds = n := by
  induction h with
  | single h => exact Nat.zero_add _
  | snoc _ _ _ ih =>
    unfold valueFrom at ih ⊢
    rw [List.foldl_append, ih]
    rfl

theorem ne_nil (h : Spells ds n) : ds ≠ [] := by
  cases h <;> simp

/-- A number other than zero has no leading zero, and zero has nothing behind it. -/
theorem head (h : Spells ds n) : ∃ d rest, ds = d :: rest ∧ (d = 0 → rest = [] ∧ n = 0) := by
  induction h with
  | single h => exact ⟨_, [], rfl, fun hd => ⟨rfl, hd⟩⟩
  | snoc _ hn _ ih =>
    obtain ⟨d, rest, rfl, hd⟩ := ih
    refine ⟨d, _, List.cons_append, fun hz => ?_⟩
    have hzero := (hd hz).2
    omega

/-- **A number is written in one way only**: its last digit and what stands before it are its remainder
and its quotient. -/
theorem unique (h : Spells ds n) {ds' : List Nat} (h' : Spells ds' n) : ds = ds' := by
  induction h generalizing ds' with
  | single hn =>
    cases h' with
    | single _ => rfl
    | snoc _ hpos _ => omega
  | @snoc ds m d _ hpos hd ih =>
    generalize hm : m * 10 + d = k at h'
    cases h' with
    | single hk => omega
    | @snoc ds' m' d' hs' hpos' hd' =>
      obtain ⟨rfl, rfl⟩ : m = m' ∧ d = d' := by omega
      rw [ih hs']

/-- A number below a power of ten has no more digits than the power says. -/
theorem length_le (h : Spells ds n) {k : Nat} (hk : 0 < k) (hn : n < 10 ^ k) : ds.length ≤ k := by
  induction h generalizing k with
  | single _ => exact hk
  | @snoc ds n d _ hpos _ ih =>
    obtain ⟨k, rfl⟩ : ∃ j, k = j + 1 := ⟨k - 1, by omega⟩
    rw [Nat.pow_succ] at hn
    have hk' : 0 < k := by
      rcases Nat.eq_zero_or_pos k with rfl | hk'
      · omega
      · exact hk'
    have := ih hk' (by omega)
    rw [List.length_append, List.length_singleton]
    omega

end Spells

/-! ## What is written -/

theorem digitsWithin_spells {fuel n : Nat} (h : n < 10 ^ (fuel + 1)) :
    ∃ ds, digitsWithin fuel n = ds.map digit ∧ Spells ds n := by
  induction fuel generalizing n with
  | zero =>
    rw [Nat.zero_add, Nat.pow_one] at h
    refine ⟨[n], ?_, .single h⟩
    rw [digitsWithin, Nat.mod_eq_of_lt h]
    rfl
  | succ fuel ih =>
    rw [digitsWithin]
    by_cases hn : n < 10
    · rw [if_pos hn]
      exact ⟨[n], rfl, .single hn⟩
    · rw [if_neg hn]
      rw [Nat.pow_succ] at h
      obtain ⟨ds, hds, hspells⟩ := ih (n := n / 10) (by omega)
      refine ⟨ds ++ [n % 10], by rw [hds, List.map_append]; rfl, ?_⟩
      have hsnoc := hspells.snoc (by omega) (Nat.mod_lt n (by omega : 0 < 10))
      rwa [Nat.mul_comm, Nat.div_add_mod] at hsnoc

theorem digits_spells (n : Nat) : ∃ ds, digits n = ds.map digit ∧ Spells ds n := by
  refine digitsWithin_spells ?_
  calc n < 2 ^ (n.log2 + 1) := Nat.lt_log2_self
    _ ≤ 10 ^ (n.log2 + 1) := Nat.pow_le_pow_left (by omega) _

theorem length_digits_le {n k : Nat} (hk : 0 < k) (hn : n < 10 ^ k) : (digits n).length ≤ k := by
  obtain ⟨ds, hds, hspells⟩ := digits_spells n
  rw [hds, List.length_map]
  exact hspells.length_le hk hn

theorem digit_toNat {d : Nat} (h : d < 10) : (digit d).toNat = 48 + d := by
  revert d
  decide

/-- Every character of a number is a digit. -/
theorem mem_digits {n : Nat} {c : Char} (h : c ∈ digits n) : ∃ d < 10, c = digit d := by
  obtain ⟨ds, hds, hspells⟩ := digits_spells n
  rw [hds] at h
  obtain ⟨d, hd, rfl⟩ := List.mem_map.mp h
  exact ⟨d, hspells.lt_ten d hd, rfl⟩

/-! ## Reading back -/

theorem value?_digit {d : Nat} (h : d < 10) : value? (digit d) = some d := by
  unfold value?
  rw [digit_toNat h, if_pos (by omega), Nat.add_sub_cancel_left]

theorem readOnto_map_digit {ds : List Nat} (h : ∀ d ∈ ds, d < 10) (n : Nat) :
    readOnto n (ds.map digit) = some (valueFrom n ds) := by
  induction ds generalizing n with
  | nil => rfl
  | cons d ds ih =>
    obtain ⟨hd, hds⟩ := List.forall_mem_cons.mp h
    rw [List.map_cons, readOnto, value?_digit hd]
    show readOnto (10 * n + d) (ds.map digit) = some (valueFrom (n * 10 + d) ds)
    rw [ih hds, Nat.mul_comm]

/-- **A number reads back.** -/
theorem read?_digits (n : Nat) : read? (digits n) = some n := by
  obtain ⟨ds, hds, hspells⟩ := digits_spells n
  have hempty : (digits n).isEmpty = false := by
    rw [hds, List.isEmpty_eq_false_iff]
    exact fun h => hspells.ne_nil (List.map_eq_nil_iff.mp h)
  unfold read?
  rw [hempty, hds, readOnto_map_digit hspells.lt_ten, hspells.value]
  rfl

/-! ## What is read -/

theorem eq_digit {c : Char} {d : Nat} (h : value? c = some d) : d < 10 ∧ c = digit d := by
  unfold value? at h
  split at h
  · obtain rfl := Option.some.inj h
    refine ⟨by omega, ?_⟩
    rw [digit, Nat.add_sub_cancel' (by omega), Char.ofNat_toNat]
  · cases h

/-- What is read is a list of digits, and they add up to the number. -/
theorem eq_map_digit {n m : Nat} {l : List Char} (h : readOnto n l = some m) :
    ∃ ds, l = ds.map digit ∧ (∀ d ∈ ds, d < 10) ∧ m = valueFrom n ds := by
  induction l generalizing n with
  | nil =>
    obtain rfl := Option.some.inj h
    exact ⟨[], rfl, nofun, rfl⟩
  | cons c rest ih =>
    rw [readOnto] at h
    obtain ⟨d, hd, hread⟩ := Option.bind_eq_some_iff.mp h
    obtain ⟨hlt, hc⟩ := eq_digit hd
    obtain ⟨ds, hrest, hds, hm⟩ := ih hread
    subst hc hrest hm
    refine ⟨d :: ds, rfl, List.forall_mem_cons.mpr ⟨hlt, hds⟩, ?_⟩
    rw [Nat.mul_comm]
    rfl

/-- Digits behind one that is not zero go on spelling. -/
theorem spells_append {ds rest : List Nat} {n : Nat} (h : Spells ds n) (hn : 0 < n)
    (hrest : ∀ d ∈ rest, d < 10) : Spells (ds ++ rest) (valueFrom n rest) := by
  induction rest generalizing ds n with
  | nil =>
    rw [List.append_nil]
    exact h
  | cons d rest ih =>
    obtain ⟨hd, hrest⟩ := List.forall_mem_cons.mp hrest
    have hmore := ih (h.snoc hn hd) (by omega) hrest
    rw [List.append_assoc] at hmore
    exact hmore

/-- **Without a leading zero, a number is read from its digits only.** -/
theorem eq_digits {l : List Char} {n : Nat} (hzero : ¬(l.head? = some '0' ∧ 1 < l.length))
    (h : read? l = some n) : l = digits n := by
  unfold read? at h
  split at h
  · cases h
  rename_i hempty
  obtain ⟨ds, rfl, hds, rfl⟩ := eq_map_digit h
  obtain ⟨ds', hds', hspells'⟩ := digits_spells (valueFrom 0 ds)
  rw [hds']
  refine congrArg (List.map digit) (Spells.unique ?_ hspells')
  cases ds with
  | nil => exact absurd rfl hempty
  | cons d rest =>
    obtain ⟨hd, hrest⟩ := List.forall_mem_cons.mp hds
    have hfirst : valueFrom 0 (d :: rest) = valueFrom d rest := by
      show valueFrom (0 * 10 + d) rest = _
      rw [Nat.zero_mul, Nat.zero_add]
    rw [hfirst]
    rcases Nat.eq_zero_or_pos d with rfl | hpos
    · -- a zero stands alone
      cases rest with
      | nil => exact .single hd
      | cons _ _ => exact absurd ⟨rfl, by simp⟩ hzero
    · exact spells_append (.single hd) hpos hrest

end SessionAuth.Decimal
