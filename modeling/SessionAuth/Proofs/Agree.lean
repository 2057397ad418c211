import SessionAuth.Proofs.Ensures

/-!
What two runs have in common.

`Ensures` is about one run. Where something is not to show in what comes of a run, there are two of them,
from states that match: `Agree` says that they end alike, both with a value or both with a failure, and
in states that match again. What matches, and which values and failures are alike, is left open, so that
what must not show is what the relations do not look at.

As with one run, each operation gets one statement, and `Agree.bind` chains the statements of its parts.
The two runs go through the same branches only where what decides for a branch is alike, and this is what
has to be shown at each of them.
-/

set_option autoImplicit false

namespace SessionAuth

variable {S S' φ φ' α α' β β' : Type}

/-- **Two runs that end alike**: both with values, or both with failures, and in states that match. -/
inductive EndsAlike (R : S → S' → Prop) (V : α → α' → Prop) (E : φ → φ' → Prop) :
    Except φ α × S → Except φ' α' × S' → Prop where
  | value {x : α} {x' : α'} {t : S} {t' : S'} (hx : V x x') (ht : R t t') :
      EndsAlike R V E (.ok x, t) (.ok x', t')
  | failure {e : φ} {e' : φ'} {t : S} {t' : S'} (he : E e e') (ht : R t t') :
      EndsAlike R V E (.error e, t) (.error e', t')

/-- **Two actions that agree** when they are run from two states. -/
def Agree (R : S → S' → Prop) (V : α → α' → Prop) (E : φ → φ' → Prop) (a : ExceptT φ (StateM S) α)
    (a' : ExceptT φ' (StateM S') α') (s : S) (s' : S') : Prop :=
  EndsAlike R V E (a s) (a' s')

namespace Agree

variable {R : S → S' → Prop} {V V₁ : α → α' → Prop} {W : β → β' → Prop} {E E₁ : φ → φ' → Prop}
  {a : ExceptT φ (StateM S) α} {a' : ExceptT φ' (StateM S') α'} {s : S} {s' : S'}

/-! ## Ending -/

theorem pure {x : α} {x' : α'} (hx : V x x') (hs : R s s') :
    Agree R V E (pure x) (pure x') s s' := .value hx hs

theorem throw {e : φ} {e' : φ'} (he : E e e') (hs : R s s') :
    Agree R V E (throw e) (throw e') s s' := .failure he hs

/-- Weaker relations. -/
theorem mono {R' : S → S' → Prop} {V' : α → α' → Prop} {E' : φ → φ' → Prop}
    (h : Agree R V E a a' s s') (hR : ∀ t t', R t t' → R' t t') (hV : ∀ x x', V x x' → V' x x')
    (hE : ∀ e e', E e e' → E' e e') : Agree R' V' E' a a' s s' := by
  unfold Agree at h ⊢
  generalize a s = r at h
  generalize a' s' = r' at h
  cases h with
  | value hx ht => exact .value (hV _ _ hx) (hR _ _ ht)
  | failure he ht => exact .failure (hE _ _ he) (hR _ _ ht)

/-- One action agrees with itself, where it is run twice from one state. -/
theorem self {R : S → S → Prop} {a : ExceptT φ (StateM S) α} {s : S} (h : R (a s).2 (a s).2) :
    Agree R Eq Eq a a s s := by
  unfold Agree
  rcases ha : a s with ⟨e | x, t⟩ <;> rw [ha] at h
  · exact .failure rfl h
  · exact .value rfl h

/-! ## Composing -/

/-- What follows on one side and on the other starts from values that are alike, in states that match, if
only more closely than at the end. -/
theorem bind_mono {R₀ : S → S' → Prop} {f : α → ExceptT φ (StateM S) β}
    {f' : α' → ExceptT φ' (StateM S') β'} (h : Agree R₀ V E a a' s s')
    (hR : ∀ t t', R₀ t t' → R t t')
    (hf : ∀ x x' t t', V x x' → R₀ t t' → Agree R W E (f x) (f' x') t t') :
    Agree R W E (a >>= f) (a' >>= f') s s' := by
  unfold Agree at h ⊢
  rw [bind_apply, bind_apply]
  generalize a s = r at h
  generalize a' s' = r' at h
  cases h with
  | value hx ht => exact hf _ _ _ _ hx ht
  | failure he ht => exact .failure he (hR _ _ ht)

/-- The same, where the states match in one way throughout. -/
theorem bind {f : α → ExceptT φ (StateM S) β} {f' : α' → ExceptT φ' (StateM S') β'}
    (h : Agree R V E a a' s s')
    (hf : ∀ x x' t t', V x x' → R t t' → Agree R W E (f x) (f' x') t t') :
    Agree R W E (a >>= f) (a' >>= f') s s' := h.bind_mono (fun _ _ ht => ht) hf

theorem map {g : α → β} {g' : α' → β'} (h : Agree R V E a a' s s')
    (hg : ∀ x x', V x x' → W (g x) (g' x')) : Agree R W E (g <$> a) (g' <$> a') s s' := by
  rw [map_eq_pure_bind, map_eq_pure_bind]
  exact h.bind fun _ _ _ _ hx ht => pure (hg _ _ hx) ht

/-- Two actions that begin alike: what follows starts from the same value and state on both sides, of which
is known what the beginning ensures. -/
theorem bind_self {R : S → S → Prop} {a : ExceptT φ (StateM S) α}
    {f : α → ExceptT φ (StateM S) β} {f' : α → ExceptT φ (StateM S) β'} {s : S}
    {Q : α → S → Prop} {F : φ → S → Prop} (h : Ensures a s Q F) (hfail : ∀ e t, F e t → R t t)
    (hf : ∀ x t, Q x t → Agree R W Eq (f x) (f' x) t t) :
    Agree R W Eq (a >>= f) (a >>= f') s s := by
  unfold Agree Ensures at *
  rw [bind_apply, bind_apply]
  rcases ha : a s with ⟨e | x, t⟩ <;> rw [ha] at h
  · exact .failure rfl (hfail e t h)
  · exact hf x t h

/-- Both runs take the same branch. -/
theorem ite {b : ExceptT φ (StateM S) α} {b' : ExceptT φ' (StateM S') α'} {c : Prop} [Decidable c]
    (hthen : c → Agree R V E a a' s s') (helse : ¬c → Agree R V E b b' s s') :
    Agree R V E (if c then a else b) (if c then a' else b') s s' := by
  by_cases hc : c
  · rw [if_pos hc, if_pos hc]
    exact hthen hc
  · rw [if_neg hc, if_neg hc]
    exact helse hc

/-! ## The primitive actions -/

/-- What is done with the states that are read may depend on them. -/
theorem get_bind {f : S → ExceptT φ (StateM S) β} {f' : S' → ExceptT φ' (StateM S') β'}
    (h : Agree R W E (f s) (f' s') s s') : Agree R W E (get >>= f) (get >>= f') s s' := h

theorem set_bind {t : S} {t' : S'} {f : PUnit → ExceptT φ (StateM S) β}
    {f' : PUnit → ExceptT φ' (StateM S') β'} (h : Agree R W E (f ⟨⟩) (f' ⟨⟩) t t') :
    Agree R W E (set t >>= f) (set t' >>= f') s s' := h

theorem modify_bind {g : S → S} {g' : S' → S'} {f : PUnit → ExceptT φ (StateM S) β}
    {f' : PUnit → ExceptT φ' (StateM S') β'} (h : Agree R W E (f ⟨⟩) (f' ⟨⟩) (g s) (g' s')) :
    Agree R W E (modify g >>= f) (modify g' >>= f') s s' := h

/-! ## What is seen -/

/-- Where values and failures are compared by equality, the runs end with the same, and in states that
match. -/
theorem same {a : ExceptT φ (StateM S) α} {a' : ExceptT φ (StateM S') α}
    (h : Agree R Eq Eq a a' s s') : (a s).1 = (a' s').1 ∧ R (a s).2 (a' s').2 := by
  unfold Agree at h
  generalize a s = r at h
  generalize a' s' = r' at h
  cases h with
  | value hx ht => exact ⟨congrArg Except.ok hx, ht⟩
  | failure he ht => exact ⟨congrArg Except.error he, ht⟩

end Agree

/-- Where the states are compared by equality as well, the runs are the same. -/
theorem Agree.eq {a a' : ExceptT φ (StateM S) α} {s : S} (h : Agree Eq Eq Eq a a' s s) :
    a s = a' s := Prod.ext h.same.1 h.same.2

/-! ## Lists -/

/-- **Lists that differ in a new entry at most**: they are the same and nothing is new, or they are the same
but for the last entry, which is new. How many entries there may have been is given. -/
inductive OneNew {α : Type} (P : α → α → Prop) (before : List Nat) : List α → List α → Prop where
  | same {l : List α} (hbefore : l.length ∈ before) : OneNew P before l l
  | new {l : List α} {a a' : α} (hbefore : l.length ∈ before) (h : P a a') :
      OneNew P before (l ++ [a]) (l ++ [a'])

/-! ## Surroundings -/

/-- **Surroundings in step**: the clock, the random source and the events so far are the same, and the stores
are related. -/
structure World.InStep {σ σ' : Type} (R : σ → σ' → Prop) (w : World σ) (w' : World σ') : Prop where
  now : w.now = w'.now
  random : w.random = w'.random
  events : w.events = w'.events
  store : R w.store w'.store

namespace World.InStep

variable {σ σ' : Type} {R R' : σ → σ' → Prop} {w : World σ} {w' : World σ'}

theorem mono (h : InStep R w w') (hR : ∀ m m', R m m' → R' m m') : InStep R' w w' :=
  ⟨h.now, h.random, h.events, hR _ _ h.store⟩

theorem refl {R : σ → σ → Prop} {w : World σ} (h : R w.store w.store) : InStep R w w :=
  ⟨rfl, rfl, rfl, h⟩

/-- The stores are changed, and nothing else. -/
theorem withStore (h : InStep R w w') {m : σ} {m' : σ'} (hm : R' m m') :
    InStep R' { w with store := m } { w' with store := m' } := ⟨h.now, h.random, h.events, hm⟩

end World.InStep

/-- What is drawn on both sides is the same. -/
theorem Act.draw_inStep {σ σ' ε : Type} {R : σ → σ' → Prop} {w : World σ} {w' : World σ'}
    (f : RandomSource → Option (α × RandomSource)) (h : World.InStep R w w') :
    Agree (World.InStep R) Eq Eq (Act.draw f : Act σ ε α) (Act.draw f : Act σ' ε α) w w' := by
  unfold Act.draw
  apply Agree.get_bind
  rw [← h.random]
  cases f w.random with
  | none => exact .throw rfl h
  | some drawn => exact .modify_bind (.pure rfl ⟨h.now, rfl, h.events, h.store⟩)

/-- An event is reported on both sides. -/
theorem Act.report_inStep {σ σ' ε : Type} {R : σ → σ' → Prop} {w : World σ} {w' : World σ'}
    (e : Event) (h : World.InStep R w w') :
    Agree (World.InStep R) Eq Eq (Act.report e : Act σ ε Unit) (Act.report e : Act σ' ε Unit) w w' :=
  .value rfl ⟨h.now, h.random, congrArg (· ++ [e]) h.events, h.store⟩

/-! ## Two runs whose ends are known -/

section Both

variable {a : ExceptT φ (StateM S) α} {a' : ExceptT φ' (StateM S') α'} {s : S} {s' : S'}
  {P : Except φ α × S → Except φ' α' × S' → Prop}

/-- Both runs end with values. -/
theorem Ensures.both_ok {Q : α → S → Prop} {Q' : α' → S' → Prop}
    (h : Ensures a s Q fun _ _ => False) (h' : Ensures a' s' Q' fun _ _ => False)
    (hP : ∀ x t x' t', Q x t → Q' x' t' → P (.ok x, t) (.ok x', t')) : P (a s) (a' s') := by
  unfold Ensures at h h'
  rcases ha : a s with ⟨e | x, t⟩ <;> rw [ha] at h
  · exact h.elim
  rcases ha' : a' s' with ⟨e' | x', t'⟩ <;> rw [ha'] at h'
  · exact h'.elim
  · exact hP x t x' t' h h'

/-- Both runs end with failures. -/
theorem Ensures.both_error {F : φ → S → Prop} {F' : φ' → S' → Prop}
    (h : Ensures a s (fun _ _ => False) F) (h' : Ensures a' s' (fun _ _ => False) F')
    (hP : ∀ e t e' t', F e t → F' e' t' → P (.error e, t) (.error e', t')) : P (a s) (a' s') := by
  unfold Ensures at h h'
  rcases ha : a s with ⟨e | x, t⟩ <;> rw [ha] at h
  · rcases ha' : a' s' with ⟨e' | x', t'⟩ <;> rw [ha'] at h'
    · exact hP e t e' t' h h'
    · exact h'.elim
  · exact h.elim

end Both

end SessionAuth
