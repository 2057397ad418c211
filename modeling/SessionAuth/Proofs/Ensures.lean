import SessionAuth.World

/-!
What an action ensures, however it ends.

Every action of this library threads a state, and it may fail; it leaves a changed state in both
cases, and what a failure leaves behind is half of what there is to prove. `Ensures` therefore
states both endings at once: one condition on a value and the state next to it, one on a failure
and the state next to it.

Each operation gets one statement of this form. `Ensures.bind` chains the statements of the parts
of an operation, and `Ensures.mono` adapts them, so that no proof opens the definition of a part.
-/

set_option autoImplicit false

namespace SessionAuth

variable {S φ α β : Type}

/-- **What an action ensures** when it is run from `s`: either it ends with a value, and `Q`
holds of it and of the state then, or it fails, and `F` holds of the failure and of the state then. -/
def Ensures (a : ExceptT φ (StateM S) α) (s : S) (Q : α → S → Prop)
    (F : φ → S → Prop) : Prop :=
  match a s with
  | (.ok x, t) => Q x t
  | (.error e, t) => F e t

/-- What holds of a result and a state: one condition where the result is a value, and one where it is
a fault. -/
def OnResult {δ : Type} (Q : α → S → Prop) (F : δ → S → Prop) : Except δ α → S → Prop
  | .ok x, s => Q x s
  | .error e, s => F e s

/-- **An action that leaves alone** what is seen of the state, however it ends. -/
def Spares {γ : Type} (view : S → γ) (a : ExceptT φ (StateM S) α) (s : S) : Prop :=
  Ensures a s (fun _ t => view t = view s) (fun _ t => view t = view s)

/-- **An action that ends in a state** of which something is said, whatever it ends with. -/
def EndsIn (P : S → Prop) (a : ExceptT φ (StateM S) α) (s : S) : Prop :=
  Ensures a s (fun _ t => P t) (fun _ t => P t)

/-- Running one action after another, written out. -/
theorem bind_apply (a : ExceptT φ (StateM S) α) (f : α → ExceptT φ (StateM S) β) (s : S) :
    (a >>= f) s
      = match a s with
        | (.ok x, t) => f x t
        | (.error e, t) => (.error e, t) := by
  -- failing actions are bound as state actions whose values are results
  show StateT.bind a (ExceptT.bindCont f) s = _
  unfold StateT.bind
  rcases a s with ⟨e | x, t⟩ <;> rfl

namespace Ensures

variable {a : ExceptT φ (StateM S) α} {f : α → ExceptT φ (StateM S) β} {s : S}
  {Q Q' : α → S → Prop} {R : β → S → Prop} {F F' : φ → S → Prop}

/-! ## Composing -/

/-- Weaker conditions on both endings. -/
theorem mono (h : Ensures a s Q F) (hv : ∀ x t, Q x t → Q' x t)
    (hf : ∀ e t, F e t → F' e t) : Ensures a s Q' F' := by
  unfold Ensures at h ⊢
  split at h
  · exact hv _ _ h
  · exact hf _ _ h

/-- An action after another: what follows starts from a value and a state of the first one. -/
theorem bind (ha : Ensures a s Q F)
    (hf : ∀ x t, Q x t → Ensures (f x) t R F) :
    Ensures (a >>= f) s R F := by
  unfold Ensures at ha ⊢
  rw [bind_apply]
  split at ha
  · exact hf _ _ ha
  · exact ha

/-- The same, where what a failure of the first action ensures is weakened. -/
theorem bind_mono (ha : Ensures a s Q F') (hfail : ∀ e t, F' e t → F e t)
    (hf : ∀ x t, Q x t → Ensures (f x) t R F) : Ensures (a >>= f) s R F :=
  (ha.mono (fun _ _ h => h) hfail).bind hf

theorem map {g : α → β} (h : Ensures a s (fun x t => R (g x) t) F) :
    Ensures (g <$> a) s R F := by
  rw [map_eq_pure_bind]
  exact h.bind fun _ _ hx => hx

/-- A value is put into other words. -/
theorem mapped {g : α → β} (h : Ensures a s Q F) :
    Ensures (g <$> a) s (fun y t => ∃ x, y = g x ∧ Q x t) F :=
  map (h.mono (fun x _ hx => ⟨x, rfl, hx⟩) fun _ _ he => he)

/-- Two statements about one run. -/
theorem and (h : Ensures a s Q F) (h' : Ensures a s Q' F') :
    Ensures a s (fun x t => Q x t ∧ Q' x t) (fun e t => F e t ∧ F' e t) := by
  unfold Ensures at h h' ⊢
  split at h
  · rename_i x t ha
    rw [ha] at h'
    exact ⟨h, h'⟩
  · rename_i e t ha
    rw [ha] at h'
    exact ⟨h, h'⟩

/-- An action ensures that it ends the way it ends. -/
theorem itself : Ensures a s (fun x t => a s = (.ok x, t)) (fun e t => a s = (.error e, t)) := by
  unfold Ensures
  split
  · exact ‹_›
  · exact ‹_›

/-- What is ensured of both endings alike holds of the ending there is. -/
theorem ending {P : Except φ α → S → Prop}
    (h : Ensures a s (fun x t => P (.ok x) t) fun e t => P (.error e) t) : P (a s).1 (a s).2 := by
  unfold Ensures at h
  rcases ha : a s with ⟨e | x, t⟩ <;> rw [ha] at h <;> exact h

/-- What is ensured of the value there is. -/
theorem of_ok (h : Ensures a s Q F) {x : α} (hx : (a s).1 = .ok x) : Q x (a s).2 := by
  unfold Ensures at h
  rcases ha : a s with ⟨e | y, t⟩ <;> rw [ha] at h hx
  · cases hx
  · rw [← Except.ok.inj hx]
    exact h

/-- What is ensured of the failure there is. -/
theorem of_error (h : Ensures a s Q F) {e : φ} (he : (a s).1 = .error e) : F e (a s).2 := by
  unfold Ensures at h
  rcases ha : a s with ⟨e' | x, t⟩ <;> rw [ha] at h he
  · rw [← Except.error.inj he]
    exact h
  · cases he

/-- There is a value where no failure can be. -/
theorem exists_ok (h : Ensures a s Q fun _ _ => False) : ∃ x, (a s).1 = .ok x ∧ Q x (a s).2 := by
  unfold Ensures at h
  rcases ha : a s with ⟨e | x, t⟩ <;> rw [ha] at h
  · exact h.elim
  · exact ⟨x, rfl, h⟩

/-- There is the one failure that can be, where no value can be. -/
theorem failed {e : φ} {P : S → Prop} (h : Ensures a s (fun _ _ => False) fun e' t => e' = e ∧ P t) :
    (a s).1 = .error e ∧ P (a s).2 :=
  (h.mono (fun _ _ h => h.elim) fun _ _ h => ⟨congrArg Except.error h.1, h.2⟩).ending
    (P := fun ended t => ended = .error e ∧ P t)

/-! ## The primitive actions

Each of them is run away by a step of the definition, alone or in front of what follows. -/

theorem get_bind {f : S → ExceptT φ (StateM S) β} (h : Ensures (f s) s R F) :
    Ensures (get >>= f) s R F := h

theorem set_bind {t : S} {f : PUnit → ExceptT φ (StateM S) β}
    (h : Ensures (f ⟨⟩) t R F) : Ensures (set t >>= f) s R F := h

theorem modify_bind {g : S → S} {f : PUnit → ExceptT φ (StateM S) β}
    (h : Ensures (f ⟨⟩) (g s) R F) : Ensures (modify g >>= f) s R F := h

end Ensures

/-- What is said of the state in which an action ends. -/
theorem EndsIn.state {P : S → Prop} {a : ExceptT φ (StateM S) α} {s : S} (h : EndsIn P a s) :
    P (a s).2 := Ensures.ending (P := fun _ t => P t) h

theorem Spares.state {γ : Type} {view : S → γ} {a : ExceptT φ (StateM S) α} {s : S}
    (h : Spares view a s) : view (a s).2 = view s := EndsIn.state (P := fun t => view t = view s) h

/-! ## Moving along a relation -/

/-- **An action that moves along a relation**, wherever it starts and however it ends. -/
def Keeps (R : S → S → Prop) (a : ExceptT φ (StateM S) α) : Prop :=
  ∀ s, Ensures a s (fun _ t => R s t) (fun _ t => R s t)

namespace Keeps

variable {R : S → S → Prop} {a : ExceptT φ (StateM S) α}

theorem mono {R' : S → S → Prop} (h : Keeps R a) (himp : ∀ s t, R s t → R' s t) :
    Keeps R' a := by
  intro s
  exact (h s).mono (fun _ t ht => himp s t ht) fun _ t ht => himp s t ht

/-- Where an action ends does not depend on what it ends with. -/
theorem of_step (h : ∀ s, R s (a s).2) : Keeps R a := by
  intro s
  have hs := h s
  unfold Ensures
  rcases ha : a s with ⟨e | x, t⟩
  · rw [ha] at hs
    exact hs
  · rw [ha] at hs
    exact hs

theorem step (h : Keeps R a) (s : S) : R s (a s).2 := EndsIn.state (h s)

theorem pure (hrefl : ∀ s, R s s) (x : α) :
    Keeps R (pure x : ExceptT φ (StateM S) α) := hrefl

theorem throw (hrefl : ∀ s, R s s) (e : φ) :
    Keeps R (throw e : ExceptT φ (StateM S) α) := hrefl

theorem bind {f : α → ExceptT φ (StateM S) β} (htrans : ∀ r s t, R r s → R s t → R r t)
    (ha : Keeps R a) (hf : ∀ x, Keeps R (f x)) : Keeps R (a >>= f) := by
  intro s
  refine (ha s).bind fun x t ht => ?_
  exact (hf x t).mono (fun _ u hu => htrans s t u ht hu) fun _ u hu => htrans s t u ht hu

/-- What is done with the state that is read may depend on it. -/
theorem get_bind {f : S → ExceptT φ (StateM S) β} (hf : ∀ x, Keeps R (f x)) :
    Keeps R (get >>= f) := by
  intro s
  exact Ensures.get_bind (hf s s)

end Keeps

/-! ## Actions in the world -/

/-- A relation between the stores before and behind an action in the world. -/
def World.Moves {σ : Type} (r : σ → σ → Prop) (w w' : World σ) : Prop := r w.store w'.store

namespace Act

variable {σ ε : Type} {w : World σ} {Q : α → World σ → Prop} {R : β → World σ → Prop}
  {F : Failure ε → World σ → Prop}

theorem refuse_ensures {fault : ε} (h : F (.refused fault) w) :
    Ensures (refuse fault : Act σ ε α) w Q F := h

theorem now_bind {f : Instant → Act σ ε β} (h : Ensures (f w.now) w R F) :
    Ensures (now >>= f) w R F := h

theorem store_bind {f : σ → Act σ ε β} (h : Ensures (f w.store) w R F) :
    Ensures (store >>= f) w R F := h

theorem modifyStore_bind {g : σ → σ} {f : Unit → Act σ ε β}
    (h : Ensures (f ()) { w with store := g w.store } R F) :
    Ensures (modifyStore g >>= f) w R F := h

/-- A draw either takes bytes from the source or panics and leaves the world as it is. -/
theorem draw_ensures {f : RandomSource → Option (α × RandomSource)}
    (hv : ∀ x r, f w.random = some (x, r) → Q x { w with random := r })
    (hf : f w.random = none → F .panicked w) :
    Ensures (draw f : Act σ ε α) w Q F := by
  unfold draw
  refine Ensures.get_bind ?_
  split
  · rename_i x r h
    exact hv x r h
  · rename_i h
    exact hf h

/-- A result becomes the value or the fault of an action that does nothing. -/
theorem ofExcept_ensures {r : Except ε α} (hv : ∀ x, r = .ok x → Q x w)
    (hf : ∀ fault, r = .error fault → F (.refused fault) w) :
    Ensures (ofExcept r : Act σ ε α) w Q F := by
  cases r with
  | ok x => exact hv x rfl
  | error fault => exact hf fault rfl

end Act

end SessionAuth
