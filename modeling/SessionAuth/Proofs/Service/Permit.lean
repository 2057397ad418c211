import SessionAuth.Proofs.Service.Parts

/-!
Waiting for a permit of the pool.

Hashing and checking a password are bounded in number. Where no permit is free, an action that needs one
does not come to an end; where one is, the action has its result and gives the permit back.
-/

set_option autoImplicit false

namespace SessionAuth

variable {σ ε α : Type} {st : ServiceState σ}

/-! ## Actions that need a permit -/

/-- **An action that needs a permit** and nothing else: it comes to an end exactly if there is one, which
is then given back, and it stays away from the store. -/
def NeedsPermit (a : Serve σ ε α) (st : ServiceState σ) (P : α → Prop) : Prop :=
  Ensures a st (fun x st' => st.pool.free ≠ 0 ∧ P x ∧ st'.pool = st.pool ∧ Quiet st st')
    (fun e st' => st.pool.free = 0 ∧ e = .stalled ∧ Quiet st st')

namespace Serve

theorem verify_needsPermit {password encoded : String} :
    NeedsPermit (verify password encoded : Serve σ ε (Except PasswordFault Unit)) st
      (· = Hasher.verify password encoded) := by
  exact verify_cases (fun hzero => ⟨hzero, rfl, Quiet.refl st⟩)
    fun hfree => ⟨Nat.ne_of_gt hfree, rfl, rfl, Quiet.refl st⟩

/-- Where the random source fails, the permit is given back all the same. -/
theorem hash_needsPermit {password : String} :
    NeedsPermit (hash password : Serve σ ε (Except PasswordFault String)) st fun _ => True := by
  exact hash_cases (fun hzero => ⟨hzero, rfl, Quiet.refl st⟩)
    (fun hfree _ => ⟨Nat.ne_of_gt hfree, trivial, rfl, Quiet.refl st⟩)
    fun _ _ hfree _ => ⟨Nat.ne_of_gt hfree, trivial, rfl, rfl, rfl⟩

end Serve

/-! ## Unknown addresses -/

namespace Service

variable {password : String}

/-- The hash for unknown addresses is there, or is made with a permit, or cannot be made. -/
theorem prepareDummyHash_permit :
    Ensures (prepareDummyHash : Serve σ AuthFault (Except PasswordFault String)) st
      (fun r st' => (∀ fault, r = .error fault → st.pool.free ≠ 0) ∧ st'.pool = st.pool
        ∧ Quiet st st')
      (fun e st' => st.pool.free = 0 ∧ e = .stalled ∧ Quiet st st') := by
  refine Ensures.get_bind ?_
  split
  · exact ⟨nofun, rfl, Quiet.refl st⟩
  · refine Ensures.bind Serve.hash_needsPermit ?_
    rintro (fault | hash) st' ⟨hfree, -, hpool, hquiet⟩
    · exact ⟨fun _ _ => hfree, hpool, hquiet⟩
    · exact Ensures.modify_bind ⟨nofun, hpool, hquiet.store, hquiet.now⟩

/-- For an unknown address there is no outcome of its own: not where a hash cannot be made, nor where
the password happens to be the one it was made for. -/
theorem equalizeUnknownUser_needsPermit :
    NeedsPermit (equalizeUnknownUser Serve.verify password : Serve σ AuthFault Unit) st fun _ => True := by
  refine Ensures.bind prepareDummyHash_permit ?_
  rintro (fault | hash) st₁ ⟨hmade, hpool, hquiet⟩
  · exact ⟨hmade fault rfl, trivial, hpool, hquiet.store, hquiet.now⟩
  · rw [← hpool]
    refine Ensures.bind_mono Serve.verify_needsPermit ?_ ?_
    · exact fun _ _ ⟨hfree, he, h⟩ => ⟨hfree, he, hquiet.trans h⟩
    · exact fun _ _ ⟨hfree, _, hpool', h⟩ => ⟨hfree, trivial, hpool', hquiet.trans h⟩

end Service

end SessionAuth
