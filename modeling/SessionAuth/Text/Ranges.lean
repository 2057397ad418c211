/-!
Sets of characters given by the ranges of their numbers, in increasing order.
-/

set_option autoImplicit false

namespace SessionAuth.Text

/-- Ranges of numbers, both ends included, in increasing order. -/
abbrev Ranges := List (Nat × Nat)

namespace Ranges

/-- Whether a number lies in one of the ranges. Because they are in order, the search ends at the
first range that starts behind the number. -/
def contains : Ranges → Nat → Bool
  | [], _ => false
  | (first, last) :: rest, n => if n < first then false else n ≤ last || contains rest n

theorem contains_eq_true {r : Ranges} {n : Nat} (h : contains r n = true) :
    ∃ p ∈ r, p.1 ≤ n ∧ n ≤ p.2 := by
  induction r with
  | nil => simp [contains] at h
  | cons p r ih =>
    obtain ⟨first, last⟩ := p
    rw [contains] at h
    split at h
    · simp at h
    · rename_i hn
      rcases Bool.or_eq_true _ _ |>.mp h with h | h
      · exact ⟨_, List.mem_cons_self, by omega, by simpa using h⟩
      · obtain ⟨q, hq, hqn⟩ := ih h
        exact ⟨q, List.mem_cons_of_mem _ hq, hqn⟩

end Ranges

end SessionAuth.Text
