import Mathlib.Data.List.Nodup

/-!
Lists of keys and what stands for each of them.

Documents and configuration are built from such lists in the same way: something is put in the place of
what has the key, or behind all there is. `keyed` is that change, whatever the keys stand for. A list
that never holds a key twice keeps to that, and a lookup finds what has been put.
-/

set_option autoImplicit false

namespace SessionAuth

variable {α β : Type}

/-- The list with something for a key, in the place of what has been there for it. -/
def keyed (key : String) (x : α) : List (String × α) → List (String × α)
  | [] => [(key, x)]
  | (k, y) :: rest => if k = key then (k, x) :: rest else (k, y) :: keyed key x rest

/-- A list in which no key stands twice. -/
def DistinctKeys (l : List (String × α)) : Prop := (l.map Prod.fst).Nodup

instance (l : List (String × α)) : Decidable (DistinctKeys l) :=
  inferInstanceAs (Decidable (l.map Prod.fst).Nodup)

variable {l : List (String × α)} {key k : String} {x y : α}

theorem distinctKeys_cons : DistinctKeys ((k, x) :: l) ↔ k ∉ l.map Prod.fst ∧ DistinctKeys l :=
  List.nodup_cons

/-! ## Lookups -/

theorem lookup_cons : ((k, x) :: l).lookup key = if key = k then some x else l.lookup key := by
  rw [List.lookup_cons]
  by_cases h : key = k
  · rw [if_pos h, h, beq_self_eq_true]
  · rw [if_neg h, beq_false_of_ne h]

/-- What is found is in the list. -/
theorem mem_of_lookup {κ : Type} [BEq κ] [LawfulBEq κ] {l : List (κ × α)} {key : κ} {x : α}
    (h : l.lookup key = some x) : (key, x) ∈ l := by
  obtain ⟨before, behind, rfl, -⟩ := List.lookup_eq_some_iff.mp h
  exact List.mem_append_right before List.mem_cons_self

theorem lookup_eq_none_iff_notMem : l.lookup key = none ↔ key ∉ l.map Prod.fst := by
  rw [List.lookup_eq_none_iff, List.mem_map]
  constructor
  · rintro h ⟨m, hm, rfl⟩
    exact absurd (h m hm) (by rw [bne_self_eq_false]; exact Bool.false_ne_true)
  · intro h m hm
    exact bne_iff_ne.mpr fun heq => h ⟨m, hm, heq.symm⟩

/-! ## Putting -/

theorem lookup_keyed : (keyed key x l).lookup k = if k = key then some x else l.lookup k := by
  induction l with
  | nil => rw [keyed, lookup_cons]
  | cons m rest ih =>
    obtain ⟨j, y⟩ := m
    rw [keyed]
    by_cases hj : j = key
    · rw [if_pos hj, lookup_cons, lookup_cons, hj]
      split <;> rfl
    · rw [if_neg hj, lookup_cons, lookup_cons, ih]
      by_cases hk : k = j
      · rw [if_pos hk, if_pos hk, if_neg (fun h => hj (hk.symm.trans h))]
      · rw [if_neg hk, if_neg hk]

/-- What is in the list afterwards is what was put, or has been there before. -/
theorem mem_keyed {m : String × α} (h : m ∈ keyed key x l) : m = (key, x) ∨ m ∈ l := by
  induction l with
  | nil => exact .inl (List.mem_singleton.mp h)
  | cons first rest ih =>
    obtain ⟨j, y⟩ := first
    rw [keyed] at h
    by_cases hj : j = key
    · rw [if_pos hj, hj] at h
      exact (List.mem_cons.mp h).imp_right (List.mem_cons_of_mem _)
    · rw [if_neg hj] at h
      rcases List.mem_cons.mp h with rfl | h
      · exact .inr List.mem_cons_self
      · exact (ih h).imp_right (List.mem_cons_of_mem _)

theorem DistinctKeys.keyed (h : DistinctKeys l) : DistinctKeys (keyed key x l) := by
  induction l with
  | nil => exact List.nodup_singleton key
  | cons first rest ih =>
    obtain ⟨j, y⟩ := first
    obtain ⟨hj, hrest⟩ := distinctKeys_cons.mp h
    unfold SessionAuth.keyed
    by_cases hkey : j = key
    · rw [if_pos hkey]
      exact distinctKeys_cons.mpr ⟨hj, hrest⟩
    · rw [if_neg hkey]
      refine distinctKeys_cons.mpr ⟨fun hmem => ?_, ih hrest⟩
      obtain ⟨m, hm, rfl⟩ := List.mem_map.mp hmem
      rcases mem_keyed hm with rfl | hm
      · exact hkey rfl
      · exact hj (List.mem_map_of_mem hm)

/-- A key that is not there can be added behind all there is. -/
theorem DistinctKeys.append (h : DistinctKeys l) (hnew : l.lookup key = none) :
    DistinctKeys (l ++ [(key, x)]) := by
  unfold DistinctKeys
  rw [List.map_append]
  refine List.nodup_append'.mpr ⟨h, List.nodup_singleton key, ?_⟩
  rw [List.map_singleton, List.disjoint_singleton]
  exact lookup_eq_none_iff_notMem.mp hnew

end SessionAuth
