import SessionAuth.Text.LowerCase

/-!
Lowering a text twice is lowering it once.

Nothing happens to a character that has been lowered. For the letters of the runs this is a fact about
the table: no run leads to a number that is a capital of some run (`caseRuns_misses`). The dotted
capital I, which is not lowered by the table, is led to by no run either, and the capital sigma is in
one of them; so the one rule that looks at the neighbours of a character is not met a second time.
-/

set_option autoImplicit false

namespace SessionAuth.Text

/-! ## The table -/

/-- A number that no rule leads any further. -/
structure IsSettled (m : Nat) : Prop where
  valid : m.isValidChar
  ascii : ¬(65 ≤ m ∧ m ≤ 90)
  dotted : m ≠ 0x130
  runs : ∀ r ∈ caseRuns, r.contains m = false

namespace CaseRun

/-- The greatest number that a run leads to. -/
def top (r : CaseRun) : Nat := r.lower + (r.last - r.first)

/-- A run leads past the capitals of another one: it leads to smaller or to greater numbers, or to the
numbers in between. -/
def misses (r s : CaseRun) : Bool :=
  r.top.blt s.first || s.last.blt r.lower
    || ((r.stride.beq 2 || r.first.beq r.last) && s.stride.beq 2
      && ((r.lower + s.first) % 2).beq 1)

/-- A run leads to characters, but neither to capitals of ASCII nor to the dotted capital I. -/
def avoids (r : CaseRun) : Bool :=
  Nat.blt 90 r.lower && (r.top.blt 0x130 || Nat.blt 0x130 r.lower)
    && (r.top.blt 0xd800 || (Nat.blt 0xdfff r.lower && r.top.blt 0x110000))

theorem contains_eq_true {r : CaseRun} {n : Nat} :
    r.contains n = true ↔ r.first ≤ n ∧ n ≤ r.last ∧ (n - r.first) % r.stride = 0 := by
  simp [contains, and_assoc]

/-- What a run leads to is no capital of a run that it leads past. -/
theorem misses_contains {r s : CaseRun} {n : Nat} (h : r.misses s = true)
    (hn : r.contains n = true) : s.contains (r.lower + (n - r.first)) = false := by
  rw [contains_eq_true] at hn
  obtain ⟨hfirst, hlast, hstride⟩ := hn
  rw [Bool.eq_false_iff, Ne, contains_eq_true]
  rintro ⟨hfirst', hlast', hstride'⟩
  simp only [misses, top, Bool.or_eq_true, Bool.and_eq_true, Nat.blt_eq, Nat.beq_eq] at h
  rcases h with (h | h) | ⟨⟨heven | hlone, heven'⟩, hodd⟩
  · omega
  · omega
  · rw [heven] at hstride
    rw [heven'] at hstride'
    omega
  · rw [heven'] at hstride'
    omega

end CaseRun

theorem caseRuns_misses : caseRuns.all (fun r => caseRuns.all r.misses) = true := by
  decide +kernel

theorem caseRuns_first : ∀ r ∈ caseRuns, 128 ≤ r.first := by
  decide +kernel

theorem caseRuns_avoids : ∀ r ∈ caseRuns, r.avoids = true := by
  decide +kernel

/-- **Every run leads to numbers that no rule leads any further.** -/
theorem isSettled_of_contains {r : CaseRun} {n : Nat} (hr : r ∈ caseRuns)
    (hn : r.contains n = true) : IsSettled (r.lower + (n - r.first)) := by
  have havoids := caseRuns_avoids r hr
  simp only [CaseRun.avoids, CaseRun.top, Bool.and_eq_true, Bool.or_eq_true,
    Nat.blt_eq] at havoids
  obtain ⟨⟨hascii, hdotted⟩, hvalid⟩ := havoids
  obtain ⟨hfirst, hlast, -⟩ := CaseRun.contains_eq_true.mp hn
  refine ⟨?_, by omega, by omega, fun s hs => ?_⟩
  · show _ < 0xd800 ∨ 0xdfff < _ ∧ _ < 0x110000
    omega
  · have hmisses := List.all_eq_true.mp (List.all_eq_true.mp caseRuns_misses r hr) s hs
    exact CaseRun.misses_contains hmisses hn

/-- A number is led nowhere, or by one of the runs. -/
theorem lowerIn_cases (runs : List CaseRun) (n : Nat) :
    lowerIn runs n = n ∨ ∃ r ∈ runs, r.contains n = true
      ∧ lowerIn runs n = r.lower + (n - r.first) := by
  induction runs with
  | nil => exact Or.inl rfl
  | cons r rest ih =>
    rw [lowerIn]
    split
    · exact Or.inl rfl
    split
    · exact Or.inr ⟨r, List.mem_cons_self, ‹_›, rfl⟩
    · rcases ih with h | ⟨r', hr', h⟩
      · exact Or.inl h
      · exact Or.inr ⟨r', List.mem_cons_of_mem _ hr', h⟩

/-! ## Characters -/

/-- **Nothing happens to the character** when a text is lowered, wherever it stands. -/
structure IsSmall (c : Char) : Prop where
  sigma : c ≠ '\u03a3'
  dotted : c ≠ '\u0130'
  same : lowerChar c = c

theorem IsSettled.isSmall {m : Nat} (h : IsSettled m) : IsSmall (Char.ofNat m) := by
  have hm : (Char.ofNat m).toNat = m := by
    rw [Char.ofNat, dif_pos h.valid]
    rfl
  refine ⟨fun heq => ?_, fun heq => h.dotted ?_, ?_⟩
  · -- the capital sigma is a capital of the table
    have hsigma : m = 0x3a3 := by
      rw [← hm, heq]
      rfl
    have hcapital : ∃ r ∈ caseRuns, r.contains 0x3a3 = true := by decide +kernel
    obtain ⟨r, hr, hcontains⟩ := hcapital
    rw [← hsigma, h.runs r hr] at hcontains
    cases hcontains
  · rw [← hm, heq]
    rfl
  · have hlower : lowerIn caseRuns m = m := by
      rcases lowerIn_cases caseRuns m with hsame | ⟨r, hr, hcontains, -⟩
      · exact hsame
      · rw [h.runs r hr] at hcontains
        cases hcontains
    simp only [lowerChar, hm, if_neg h.ascii, hlower, ite_self]

/-- A character that is lowered by the table becomes a small one. -/
theorem isSmall_lowerChar {c : Char} (hsigma : c ≠ '\u03a3') (hdotted : c ≠ '\u0130') :
    IsSmall (lowerChar c) := by
  have hsame : lowerChar c = c → IsSmall (lowerChar c) := fun h => by
    rw [h]
    exact ⟨hsigma, hdotted, h⟩
  by_cases hascii : c.toNat < 128
  · by_cases hcapital : 65 ≤ c.toNat ∧ c.toNat ≤ 90
    · have hlower : lowerChar c = Char.ofNat (c.toNat + 32) := by
        simp only [lowerChar, if_pos hascii, if_pos hcapital]
      rw [hlower]
      refine IsSettled.isSmall ⟨Or.inl (by omega), by omega, by omega, fun r hr => ?_⟩
      have hfirst := caseRuns_first r hr
      rw [Bool.eq_false_iff, Ne, CaseRun.contains_eq_true]
      omega
    · exact hsame (by simp only [lowerChar, if_pos hascii, if_neg hcapital])
  · have hlower : lowerChar c = Char.ofNat (lowerIn caseRuns c.toNat) := by
      simp only [lowerChar, if_neg hascii]
    rcases lowerIn_cases caseRuns c.toNat with h | ⟨r, hr, hcontains, h⟩
    · exact hsame (by rw [hlower, h, Char.ofNat_toNat])
    · rw [hlower, h]
      exact (isSettled_of_contains hr hcontains).isSmall

/-- The characters that are written without the table are small. -/
theorem isSmall_unlisted : ∀ c ∈ ['\u03c2', '\u03c3', 'i', '\u0307'], IsSmall c := by
  have hlisted : (['\u03c2', '\u03c3', 'i', '\u0307'].all fun c =>
      decide (¬(65 ≤ c.toNat ∧ c.toNat ≤ 90) ∧ c.toNat ≠ 0x130)
        && caseRuns.all fun r => !r.contains c.toNat) = true := by
    decide +kernel
  intro c hc
  have h := List.all_eq_true.mp hlisted c hc
  rw [Bool.and_eq_true, decide_eq_true_iff, List.all_eq_true] at h
  obtain ⟨⟨hascii, hdotted⟩, hruns⟩ := h
  have hsmall : IsSmall (Char.ofNat c.toNat) :=
    IsSettled.isSmall ⟨c.valid, hascii, hdotted, fun r hr => by simpa using hruns r hr⟩
  rwa [Char.ofNat_toNat] at hsmall

/-! ## Texts -/

/-- Every character of a lowered text is small. -/
theorem isSmall_of_mem_lowerAfter {before l : List Char} :
    ∀ c ∈ lowerAfter before l, IsSmall c := by
  induction l generalizing before with
  | nil => exact nofun
  | cons d rest ih =>
    intro c hc
    rw [lowerAfter, List.mem_append] at hc
    rcases hc with hc | hc
    · split at hc
      · refine isSmall_unlisted c ?_
        rw [List.mem_singleton] at hc
        split at hc <;> simp [hc]
      split at hc
      · refine isSmall_unlisted c ?_
        simp only [List.mem_cons, List.not_mem_nil, or_false] at hc ⊢
        exact Or.inr (Or.inr hc)
      · rw [List.mem_singleton.mp hc]
        exact isSmall_lowerChar ‹_› ‹_›
    · exact ih c hc

/-- A text of small characters is left as it is. -/
theorem lowerAfter_of_isSmall {before l : List Char} (h : ∀ c ∈ l, IsSmall c) :
    lowerAfter before l = l := by
  induction l generalizing before with
  | nil => rfl
  | cons c rest ih =>
    obtain ⟨hc, hrest⟩ := List.forall_mem_cons.mp h
    rw [lowerAfter, if_neg hc.sigma, if_neg hc.dotted, hc.same, ih hrest]
    rfl

/-- **Lowering twice is lowering once.** -/
theorem lower_lower (l : List Char) : lower (lower l) = lower l :=
  lowerAfter_of_isSmall isSmall_of_mem_lowerAfter

end SessionAuth.Text
