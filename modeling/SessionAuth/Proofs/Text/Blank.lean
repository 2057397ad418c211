import Mathlib.Data.List.DropRight
import SessionAuth.Text.Blank

/-!
Text without the white space around it: what there is nothing to take from, and that nothing is left to
take the second time.
-/

set_option autoImplicit false

namespace SessionAuth.Text

variable {l : List Char}

theorem trimLeft_of_visible (h : ∀ c ∈ l, isBlank c = false) : trimLeft l = l := by
  cases l with
  | nil => rfl
  | cons c rest =>
    have hc := h c List.mem_cons_self
    rw [trimLeft, List.dropWhile_cons_of_neg (by rw [hc]; exact Bool.false_ne_true)]

/-- A text without white space is left as it is. -/
theorem trim_of_visible (h : ∀ c ∈ l, isBlank c = false) : trim l = l := by
  have hreverse : ∀ c ∈ l.reverse, isBlank c = false := fun c hc => h c (List.mem_reverse.mp hc)
  rw [trim, trimLeft_of_visible h, trimLeft_of_visible hreverse, List.reverse_reverse]

/-- White space is taken from the end, and from the front before. -/
theorem trim_eq (l : List Char) : trim l = (l.dropWhile isBlank).rdropWhile isBlank := rfl

/-- Taking white space from the end leaves the front as it is. -/
theorem dropWhile_trim (l : List Char) : (trim l).dropWhile isBlank = trim l := by
  rw [List.dropWhile_eq_self_iff]
  intro hlength hblank
  -- the first character that is left is the first one that is not white space
  obtain ⟨behind, hbehind⟩ := List.rdropWhile_prefix isBlank (l.dropWhile isBlank)
  rw [← trim_eq] at hbehind
  have hpositive : 0 < (l.dropWhile isBlank).length := by
    rw [← hbehind, List.length_append]
    omega
  have hfirst : (l.dropWhile isBlank)[0] = (trim l)[0] := by
    simp only [← hbehind, List.getElem_append_left hlength]
  have hvisible := List.dropWhile_get_zero_not isBlank l hpositive
  rw [List.get_eq_getElem] at hvisible
  exact hvisible (hfirst ▸ hblank)

/-- **The second time, there is nothing left to take.** -/
theorem trim_trim (l : List Char) : trim (trim l) = trim l := by
  rw [trim_eq (trim l), dropWhile_trim, trim_eq, List.rdropWhile_idempotent]

end SessionAuth.Text
