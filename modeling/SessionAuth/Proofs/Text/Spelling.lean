import Mathlib.Data.List.DropRight
import SessionAuth.Proofs.Text.Blank
import SessionAuth.Text.LowerCase

/-!
What of the spelling of a text does not matter to its normal form: the case of its ASCII letters, and the
white space around it.

No property that is looked at on the way to the normal form tells the two cases of an ASCII letter apart,
neither white space nor what decides about a sigma. So the text may as well be lowered in ASCII first
(`trim_map_toLower`, `lower_map_toLower`), and two spellings that are the same then have one normal
form.
-/

set_option autoImplicit false

namespace SessionAuth.Text

variable {α : Type}

/-! ## The case of ASCII letters -/

/-- A character has no other ASCII lower case, or it is one of the 26 capital letters. -/
theorem toLower_cases (c : Char) :
    c.toLower = c ∨ ∃ n < 26, c = Char.ofNat (65 + n) ∧ c.toLower = Char.ofNat (97 + n) := by
  by_cases h : c.val ≥ 'A'.val ∧ c.val ≤ 'Z'.val
  · have hlow : 65 ≤ c.toNat := UInt32.le_iff_toNat_le.mp h.1
    have hhigh : c.toNat ≤ 90 := UInt32.le_iff_toNat_le.mp h.2
    have hc : c = Char.ofNat (65 + (c.toNat - 65)) := by
      rw [Nat.add_sub_cancel' hlow, Char.ofNat_toNat]
    have hall : ∀ n < 26, (Char.ofNat (65 + n)).toLower = Char.ofNat (97 + n) := by decide
    refine Or.inr ⟨c.toNat - 65, by omega, hc, ?_⟩
    rw [← hall _ (by omega), ← hc]
  · exact Or.inl (dif_neg h)

/-- What does not tell capital letters of ASCII from small ones is no matter of their case. -/
theorem apply_toLower {f : Char → α} (h : ∀ n < 26, f (Char.ofNat (97 + n)) = f (Char.ofNat (65 + n)))
    (c : Char) : f c.toLower = f c := by
  rcases toLower_cases c with hsame | ⟨n, hn, hc, hlower⟩
  · rw [hsame]
  · rw [hlower, h n hn, ← hc]

theorem isBlank_toLower (c : Char) : isBlank c.toLower = isBlank c := apply_toLower (by decide) c

theorem isCased_toLower (c : Char) : isCased c.toLower = isCased c :=
  apply_toLower (by decide +kernel) c

theorem isCaseIgnorable_toLower (c : Char) : isCaseIgnorable c.toLower = isCaseIgnorable c :=
  apply_toLower (by decide +kernel) c

theorem lowerChar_toLower (c : Char) : lowerChar c.toLower = lowerChar c :=
  apply_toLower (by decide) c

/-- The two characters that are lowered without the table are none of ASCII. -/
theorem toLower_eq_iff {c d : Char} (hd : d ∈ ['\u03a3', '\u0130']) : c.toLower = d ↔ c = d := by
  have hsame : decide (c.toLower = d) = decide (c = d) := by
    refine apply_toLower (f := fun c => decide (c = d)) ?_ c
    rcases List.mem_pair.mp hd with rfl | rfl <;> decide
  rw [← decide_eq_decide, hsame]

theorem trim_map_toLower (l : List Char) : trim (l.map Char.toLower) = (trim l).map Char.toLower := by
  have hblank : isBlank ∘ Char.toLower = isBlank := funext isBlank_toLower
  have hleft : ∀ l : List Char, trimLeft (l.map Char.toLower) = (trimLeft l).map Char.toLower := by
    intro l
    rw [trimLeft, List.dropWhile_map, hblank, trimLeft]
  rw [trim, hleft, ← List.map_reverse, hleft, ← List.map_reverse, trim]

theorem casedNext_map_toLower (l : List Char) : casedNext (l.map Char.toLower) = casedNext l := by
  have hignorable : isCaseIgnorable ∘ Char.toLower = isCaseIgnorable :=
    funext isCaseIgnorable_toLower
  unfold casedNext
  rw [List.dropWhile_map, hignorable]
  cases l.dropWhile isCaseIgnorable with
  | nil => rfl
  | cons c rest => exact isCased_toLower c

theorem lowerAfter_map_toLower (before l : List Char) :
    lowerAfter (before.map Char.toLower) (l.map Char.toLower) = lowerAfter before l := by
  induction l generalizing before with
  | nil => rfl
  | cons c rest ih =>
    have hrest := ih (c :: before)
    rw [List.map_cons] at hrest
    rw [List.map_cons, lowerAfter, lowerAfter, hrest, casedNext_map_toLower, casedNext_map_toLower,
      lowerChar_toLower]
    simp only [toLower_eq_iff, List.mem_cons, true_or, or_true]

/-- Lowering a text that has been lowered in ASCII is lowering the text. -/
theorem lower_map_toLower (l : List Char) : lower (l.map Char.toLower) = lower l :=
  lowerAfter_map_toLower [] l

/-! ## White space around a text -/

variable {l before behind : List Char}

theorem trim_append_left (h : ∀ c ∈ before, isBlank c = true) : trim (before ++ l) = trim l := by
  rw [trim_eq, List.dropWhile_append_of_pos h, trim_eq]

theorem rdropWhile_append_right (h : ∀ c ∈ behind, isBlank c = true) :
    (l ++ behind).rdropWhile isBlank = l.rdropWhile isBlank := by
  unfold List.rdropWhile
  rw [List.reverse_append, List.dropWhile_append_of_pos fun c hc => h c (List.mem_reverse.mp hc)]

theorem trim_append_right (h : ∀ c ∈ behind, isBlank c = true) : trim (l ++ behind) = trim l := by
  rw [trim_eq, trim_eq, List.dropWhile_append]
  split
  · -- where nothing but white space comes before it, the white space is taken from the front
    rename_i hnone
    rw [List.dropWhile_eq_nil_iff.mpr h, List.isEmpty_iff.mp hnone]
  · exact rdropWhile_append_right h

/-- **White space around a text makes no difference** to what is left without it. -/
theorem trim_append_append (hbefore : ∀ c ∈ before, isBlank c = true)
    (hbehind : ∀ c ∈ behind, isBlank c = true) : trim (before ++ l ++ behind) = trim l := by
  rw [trim_append_right hbehind, trim_append_left hbefore]

/-- **A text with white space around it**, in front of it and behind it, or none. -/
def Padded (raw text : String) : Prop :=
  ∃ before behind : List Char, (∀ c ∈ before, isBlank c = true) ∧ (∀ c ∈ behind, isBlank c = true)
    ∧ raw.toList = before ++ text.toList ++ behind

theorem Padded.refl (text : String) : Padded text text :=
  ⟨[], [], nofun, nofun, (List.append_nil _).symm⟩

/-- What surrounds a text without blanks is all that is taken away. -/
theorem Padded.trim {raw text : String} (h : Padded raw text)
    (hvisible : ∀ c ∈ text.toList, isBlank c = false) : Text.trim raw.toList = text.toList := by
  obtain ⟨before, behind, hbefore, hbehind, hraw⟩ := h
  rw [hraw, trim_append_append hbefore hbehind, trim_of_visible hvisible]

/-! ## Spellings -/

/-- **Another spelling of a text**: the same text but for the case of ASCII letters, with white space around
it. -/
def Respells (l l' : List Char) : Prop :=
  ∃ before same behind : List Char, l' = before ++ same ++ behind
    ∧ (∀ c ∈ before, isBlank c = true) ∧ (∀ c ∈ behind, isBlank c = true)
    ∧ same.map Char.toLower = l.map Char.toLower

/-- **Spellings of one text are the same in small letters** and without the white space around them. -/
theorem Respells.lower_trim {l l' : List Char} (h : Respells l l') :
    lower (trim l') = lower (trim l) := by
  obtain ⟨before, same, behind, rfl, hbefore, hbehind, hsame⟩ := h
  calc lower (trim (before ++ same ++ behind))
      = lower (trim same) := by rw [trim_append_append hbefore hbehind]
    _ = lower (trim (same.map Char.toLower)) := by rw [trim_map_toLower, lower_map_toLower]
    _ = lower (trim (l.map Char.toLower)) := by rw [hsame]
    _ = lower (trim l) := by rw [trim_map_toLower, lower_map_toLower]

end SessionAuth.Text
