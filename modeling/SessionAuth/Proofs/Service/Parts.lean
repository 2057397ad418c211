import SessionAuth.Proofs.Ensures
import SessionAuth.Proofs.Password.Pool
import SessionAuth.Service.Service

/-!
What the parts of the service's operations ensure.

Most of them stay away from the store (`Quiet`), so that an operation does to the store what its calls
of the store do. A call of the store hands on what is ensured of it, with its faults in the words
of the service.
-/

set_option autoImplicit false

namespace SessionAuth

variable {σ ε α β : Type} {st : ServiceState σ}

/-! ## Acting in the service -/

/-- **A step that stays away from the store**, and does not move the clock. -/
structure Quiet (st st' : ServiceState σ) : Prop where
  store : st'.world.store = st.world.store
  now : st'.world.now = st.world.now

theorem Quiet.refl (st : ServiceState σ) : Quiet st st := ⟨rfl, rfl⟩

theorem Quiet.trans {a b c : ServiceState σ} (h : Quiet a b) (h' : Quiet b c) : Quiet a c :=
  ⟨h'.store.trans h.store, h'.now.trans h.now⟩

namespace Serve

variable {Q : α → ServiceState σ → Prop} {R : β → ServiceState σ → Prop}
  {F : Failure ε → ServiceState σ → Prop}

/-- What is reported is not looked at by anything that follows. -/
theorem report_ensures {e : Event} {Q : Unit → ServiceState σ → Prop}
    (h : ∀ st', Quiet st st' → Q () st') : Ensures (report e : Serve σ ε Unit) st Q F :=
  h _ ⟨rfl, rfl⟩

theorem report_bind {e : Event} {f : Unit → Serve σ ε β}
    (h : ∀ st', Quiet st st' → Ensures (f ()) st' R F) : Ensures (report e >>= f) st R F :=
  Ensures.bind (Q := fun _ st' => Quiet st st') (report_ensures fun _ hst => hst)
    fun _ st' hst => h st' hst

/-- An action in the surroundings of the service, by itself. -/
theorem act_ensures {a : Act σ ε α} {P : α → World σ → Prop} {G : Failure ε → World σ → Prop}
    (h : Ensures a st.world P G) :
    Ensures (act a) st (fun x st' => P x st'.world) (fun e st' => G e st'.world) := by
  unfold Ensures act at *
  rcases h' : a st.world with ⟨e | x, w⟩ <;> rw [h'] at h <;> exact h

/-- Drawing from the random source stays away from the store. -/
theorem draw_quiet {f : RandomSource → Option (α × RandomSource)} :
    Ensures (act (Act.draw f) : Serve σ ε α) st (fun _ st' => Quiet st st')
      (fun _ st' => Quiet st st') := by
  have h : Ensures (Act.draw f : Act σ ε α) st.world
      (fun _ w => w.store = st.world.store ∧ w.now = st.world.now)
      (fun _ w => w.store = st.world.store ∧ w.now = st.world.now) :=
    Act.draw_ensures (fun _ _ _ => ⟨rfl, rfl⟩) fun _ => ⟨rfl, rfl⟩
  exact (act_ensures h).mono (fun _ _ h => ⟨h.1, h.2⟩) fun _ _ h => ⟨h.1, h.2⟩

/-- A draw panics rather than to refuse. -/
theorem draw_panics {f : RandomSource → Option (α × RandomSource)} :
    Ensures (act (Act.draw f) : Serve σ ε α) st (fun _ _ => True) (fun e _ => e = .panicked) := by
  have h : Ensures (Act.draw f : Act σ ε α) st.world (fun _ _ => True) (fun e _ => e = .panicked) :=
    Act.draw_ensures (fun _ _ _ => trivial) fun _ => rfl
  exact act_ensures h

/-- A user who is registered has the address and the hash that the registration is about. -/
theorem register?_ensures {email : Email} {hash : String} {now : Instant} :
    Ensures (act (Act.draw (User.register? email hash now)) : Serve σ ε User) st
      (fun u st' => Quiet st st' ∧ u.email = email ∧ u.passwordHash = hash)
      (fun _ st' => Quiet st st') := by
  have h : Ensures (Act.draw (User.register? email hash now) : Act σ ε User) st.world
      (fun u w => (w.store = st.world.store ∧ w.now = st.world.now)
        ∧ u.email = email ∧ u.passwordHash = hash)
      (fun _ w => w.store = st.world.store ∧ w.now = st.world.now) := by
    refine Act.draw_ensures (fun u r hu => ?_) fun _ => ⟨rfl, rfl⟩
    obtain ⟨⟨id, rest⟩, -, hdrawn⟩ := Option.map_eq_some_iff.mp hu
    obtain ⟨rfl, -⟩ := Prod.mk.inj hdrawn
    exact ⟨⟨rfl, rfl⟩, rfl, rfl⟩
  exact (act_ensures h).mono (fun _ _ h => ⟨⟨h.1.1, h.1.2⟩, h.2⟩) fun _ _ h => ⟨h.1, h.2⟩

/-- **Hashing in the pool**. Without a permit the request waits. With one, the answer is the hasher's, or
that the worker has been lost, and the permit is back. -/
theorem hash_cases {password : String} {Q : Except PasswordFault String → ServiceState σ → Prop}
    {F : Failure ε → ServiceState σ → Prop} (hbusy : st.pool.free = 0 → F .stalled st)
    (hlost : 0 < st.pool.free → st.pool.hasher.hash? password st.world.random = none →
      Q (.error .workerLost) st)
    (hmade : ∀ result rest, 0 < st.pool.free →
      st.pool.hasher.hash? password st.world.random = some (result, rest) →
      Q result { st with world := { st.world with random := rest } }) :
    Ensures (hash password : Serve σ ε (Except PasswordFault String)) st Q F := by
  unfold Ensures hash
  rcases Nat.eq_zero_or_pos st.pool.free with hzero | hfree
  · rw [HashingPool.hash?, HashingPool.acquire?_eq_none_iff.mpr hzero]
    exact hbusy hzero
  rw [HashingPool.hash?_of_free hfree]
  cases hhash : st.pool.hasher.hash? password st.world.random with
  | none => exact hlost hfree hhash
  | some made => exact hmade made.1 made.2 hfree hhash

/-- **A check in the pool**: it waits for a permit, and then its verdict is the hasher's. -/
theorem verify_cases {password encoded : String}
    {Q : Except PasswordFault Unit → ServiceState σ → Prop}
    {F : Failure ε → ServiceState σ → Prop} (hbusy : st.pool.free = 0 → F .stalled st)
    (hdone : 0 < st.pool.free → Q (Hasher.verify password encoded) st) :
    Ensures (verify password encoded : Serve σ ε (Except PasswordFault Unit)) st Q F := by
  unfold Ensures verify
  rcases Nat.eq_zero_or_pos st.pool.free with hzero | hfree
  · rw [HashingPool.verify?, HashingPool.acquire?_eq_none_iff.mpr hzero]
    exact hbusy hzero
  rw [HashingPool.verify?_of_free hfree]
  exact hdone hfree

/-- A hash that comes out of the pool has been made by its hasher, for a password that is not empty. -/
theorem hash_ensures {password : String} :
    Ensures (hash password : Serve σ ε (Except PasswordFault String)) st
      (fun r st' => Quiet st st' ∧ ∀ text, r = .ok text → password.isEmpty = false
        ∧ st.pool.hasher.Makes password text)
      (fun _ st' => Quiet st st') := by
  refine hash_cases (fun _ => Quiet.refl st) (fun _ _ => ⟨Quiet.refl st, nofun⟩) ?_
  intro result rest _ hhash
  refine ⟨⟨rfl, rfl⟩, ?_⟩
  rintro text rfl
  exact Hasher.makes_of_hash? hhash

/-- A password that is not empty is hashed with the salt that is drawn. -/
theorem hash_drawn {password : String} {salt : Bytes} {rest : RandomSource}
    {F : Failure ε → ServiceState σ → Prop} (hfree : 0 < st.pool.free)
    (hnonempty : password.isEmpty = false)
    (hdraw : st.world.random.draw? Hasher.saltLength = some (salt, rest)) :
    Ensures (hash password : Serve σ ε (Except PasswordFault String)) st
      (fun r st' => (∃ text, r = .ok text)
        ∧ st' = { st with world := { st.world with random := rest } }) F := by
  have hpassword : password ≠ "" := by
    rintro rfl
    cases hnonempty
  have hhash : st.pool.hasher.hash? password st.world.random = some (.ok _, rest) :=
    Hasher.hash?_of_draw? hpassword hdraw
  refine hash_cases (fun hzero => absurd hzero (Nat.ne_of_gt hfree)) ?_ ?_
  · intro _ hlost
    cases hlost.symm.trans hhash
  · intro result rest' _ hmade
    obtain ⟨rfl, rfl⟩ := Prod.mk.inj (Option.some.inj (hhash.symm.trans hmade))
    exact ⟨⟨_, rfl⟩, rfl⟩

theorem hash_quiet {password : String} :
    Ensures (hash password : Serve σ ε (Except PasswordFault String)) st
      (fun _ st' => Quiet st st') (fun _ st' => Quiet st st') :=
  hash_ensures.mono (fun _ _ h => h.1) fun _ _ h => h

/-- A password is checked against an encoded hash. -/
theorem verify_ensures {password encoded : String} :
    Ensures (verify password encoded : Serve σ ε (Except PasswordFault Unit)) st
      (fun r st' => Quiet st st' ∧ r = Hasher.verify password encoded)
      (fun _ st' => Quiet st st') :=
  verify_cases (fun _ => Quiet.refl st) fun _ => ⟨Quiet.refl st, rfl⟩

/-- With a permit, a check comes to its end. -/
theorem verify_done {password encoded : String} {F : Failure ε → ServiceState σ → Prop}
    (hfree : 0 < st.pool.free) :
    Ensures (verify password encoded : Serve σ ε (Except PasswordFault Unit)) st
      (fun r st' => r = Hasher.verify password encoded ∧ st' = st) F :=
  verify_cases (fun hzero => absurd hzero (Nat.ne_of_gt hfree)) fun _ => ⟨rfl, rfl⟩

end Serve

namespace Service

variable {s : Service σ}

/-- An error that is reported ends an operation quietly. -/
theorem internal_ensures {e : Event} {Q : α → ServiceState σ → Prop}
    {F : Failure AuthFault → ServiceState σ → Prop}
    (h : ∀ st', Quiet st st' → F (.refused .internal) st') :
    Ensures (internal e : Serve σ AuthFault α) st Q F :=
  Serve.report_bind h

/-! ## Parts that stay away from the store -/

/-- An argument is what is left of a text without the white space around it. -/
theorem required_text {value : String} (field : String)
    (h : (Text.trim value.toList).isEmpty = false) :
    required value field = .ok (String.ofList (Text.trim value.toList)) := by
  unfold required
  dsimp only
  rw [h]
  rfl

/-- Nothing has been given where nothing is left. -/
theorem required_blank {value field : String} (h : (Text.trim value.toList).isEmpty = true) :
    required value field = .error (.invalidArgument (field ++ " required")) := if_pos h

/-- An argument is the text in it, of which something has to be left. -/
theorem requireArgument_ensures {value field : String} :
    Ensures (requireArgument value field : Serve σ AuthFault String) st
      (fun text st' => st' = st ∧ required value field = .ok text) (fun _ st' => st' = st) := by
  unfold requireArgument
  split
  · exact ⟨rfl, ‹_›⟩
  · exact rfl

/-- An argument that holds text is that text. -/
theorem requireArgument_presents {value field text : String}
    {F : Failure AuthFault → ServiceState σ → Prop} (h : required value field = .ok text) :
    Ensures (requireArgument value field : Serve σ AuthFault String) st
      (fun text' st' => text' = text ∧ st' = st) F := by
  unfold requireArgument
  rw [h]
  exact ⟨rfl, rfl⟩

theorem requireEmail_ensures {raw : String} :
    Ensures (requireEmail raw : Serve σ AuthFault Email) st
      (fun email st' => st' = st ∧ Email.parse raw = .ok email) (fun _ st' => Quiet st st') := by
  unfold requireEmail
  split
  · exact ⟨rfl, ‹_›⟩
  · exact Serve.report_bind fun _ h => h

/-- A well-formed address is accepted. -/
theorem requireEmail_accepts {raw : String} {email : Email}
    {F : Failure AuthFault → ServiceState σ → Prop} (h : Email.parse raw = .ok email) :
    Ensures (requireEmail raw : Serve σ AuthFault Email) st
      (fun x st' => x = email ∧ st' = st) F := by
  unfold requireEmail
  rw [h]
  exact ⟨rfl, rfl⟩

theorem newRefreshSecret_ensures :
    Ensures (newRefreshSecret : Serve σ AuthFault String) st
      (fun secret st' => Quiet st st'
        ∧ ∃ r, RefreshSecret.draw? st.world.random = some (secret, r))
      (fun _ st' => Quiet st st' ∧ RefreshSecret.draw? st.world.random = none) := by
  refine Ensures.get_bind ?_
  split
  · exact ⟨⟨rfl, rfl⟩, _, ‹_›⟩
  · exact internal_ensures fun _ h => ⟨h, ‹_›⟩

/-- The secret is the one that is drawn. -/
theorem newRefreshSecret_drawn {secret : String} {rest : RandomSource}
    {F : Failure AuthFault → ServiceState σ → Prop}
    (hdraw : RefreshSecret.draw? st.world.random = some (secret, rest)) :
    Ensures (newRefreshSecret : Serve σ AuthFault String) st
      (fun x st' => x = secret ∧ st' = { st with world := { st.world with random := rest } }) F := by
  refine Ensures.get_bind ?_
  rw [hdraw]
  exact ⟨rfl, rfl⟩

theorem expiryAfter_ensures {lifetime : Duration} :
    Ensures (expiryAfter lifetime : Serve σ AuthFault Instant) st
      (fun expires st' => st' = st ∧ st.world.now.after? lifetime = some expires)
      (fun _ st' => Quiet st st' ∧ st.world.now.after? lifetime = none) := by
  refine Ensures.get_bind ?_
  split
  · exact ⟨rfl, ‹_›⟩
  · exact internal_ensures fun _ h => ⟨h, ‹_›⟩

/-- The hash for unknown addresses is prepared, and the password is checked against it. -/
theorem equalizeUnknownUser_quiet {password : String} :
    Ensures (equalizeUnknownUser Serve.verify password : Serve σ AuthFault Unit) st
      (fun _ st' => Quiet st st') (fun _ st' => Quiet st st') := by
  have hprepare : Ensures (prepareDummyHash : Serve σ AuthFault _) st
      (fun _ st' => Quiet st st') (fun _ st' => Quiet st st') := by
    refine Ensures.get_bind ?_
    split
    · exact Quiet.refl st
    · refine Ensures.bind Serve.hash_quiet ?_
      rintro (fault | hash) st' h
      · exact h
      · exact Ensures.modify_bind ⟨h.store, h.now⟩
  refine Ensures.bind hprepare ?_
  rintro (fault | hash) st₁ h₁
  · exact Serve.report_ensures fun _ h => h₁.trans h
  · refine Ensures.bind (Serve.verify_ensures.mono (fun _ _ h => h₁.trans h.1)
      fun _ _ h => h₁.trans h) fun _ _ h => h

/-- A user is who knows the password. -/
theorem authenticate_ensures {user : User} {password : String} :
    Ensures (authenticate Serve.verify user password : Serve σ AuthFault Unit) st
      (fun _ st' => Quiet st st' ∧ Hasher.verify password user.passwordHash = .ok ())
      (fun _ st' => Quiet st st') := by
  refine Ensures.bind Serve.verify_ensures ?_
  rintro r st₁ ⟨h₁, rfl⟩
  split
  · exact ⟨h₁, ‹_›⟩
  · exact Serve.report_bind fun _ h => h₁.trans h
  · exact Serve.report_bind fun _ h => h₁.trans h
  · exact internal_ensures fun _ h => h₁.trans h

/-! ## Issuing tokens -/

/-- A token cannot be signed exactly where its expiry would have no date. -/
theorem mint_error_iff {signer : TokenSigner} {now : Instant} {subject email : String}
    {lifetime : Duration} :
    (∃ fault, signer.mint now subject email lifetime = .error fault)
      ↔ now.after? lifetime = none := by
  unfold TokenSigner.mint
  -- both refusals of the signer are refusals of the sum: one for its summand, one for its value
  by_cases hlong : Duration.longest.nanoseconds < lifetime.nanoseconds
  · have hnone : now.after? lifetime = none := by
      unfold Instant.after?
      rw [if_neg (Nat.not_le.mpr hlong)]
    rw [if_pos hlong]
    exact ⟨fun _ => hnone, fun _ => ⟨_, rfl⟩⟩
  · rw [if_neg hlong]
    cases now.after? lifetime with
    | none => exact ⟨fun _ => rfl, fun _ => ⟨_, rfl⟩⟩
    | some expires => exact ⟨fun ⟨_, h⟩ => (nomatch h), fun h => (nomatch h)⟩

theorem mint_ok_iff {signer : TokenSigner} {now : Instant} {subject email : String}
    {lifetime : Duration} :
    (∃ minted, signer.mint now subject email lifetime = .ok minted)
      ↔ now.after? lifetime ≠ none := by
  rw [ne_eq, ← @mint_error_iff signer now subject email lifetime]
  rcases signer.mint now subject email lifetime with fault | minted
  · exact ⟨nofun, fun h => absurd ⟨fault, rfl⟩ h⟩
  · exact ⟨fun _ => nofun, fun _ => ⟨minted, rfl⟩⟩

/-- The tokens that are issued carry the secret and its expiry. Where there are none, it is because the
access lifetime leads to no date. -/
theorem issue_ensures {user : User} {secret : String} {expires : Instant} :
    Ensures (s.issue user secret expires) st
      (fun tokens st' => st' = st ∧ tokens.userId = user.id ∧ tokens.refreshToken = secret
        ∧ tokens.refreshExpiresAt = expires
        ∧ st.world.now.after? s.settings.accessLifetime ≠ none)
      (fun _ st' => Quiet st st'
        ∧ st.world.now.after? s.settings.accessLifetime = none) := by
  refine Ensures.bind (Q := fun _ st' => st' = st
    ∧ st.world.now.after? s.settings.accessLifetime ≠ none) (Ensures.get_bind ?_) ?_
  · have hiff := @mint_error_iff s.signer st.world.now user.id.toText user.email.text
      s.settings.accessLifetime
    dsimp only
    split
    · rename_i heq
      refine ⟨rfl, fun hnone => ?_⟩
      obtain ⟨fault, hf⟩ := hiff.mpr hnone
      rw [heq] at hf
      cases hf
    · rename_i fault heq
      exact internal_ensures fun _ h => ⟨h, hiff.mp ⟨fault, heq⟩⟩
  · rintro token st' ⟨rfl, hdate⟩
    exact ⟨rfl, rfl, rfl, rfl, hdate⟩

/-! ## What goes wrong inside

Where one of these parts fails, all that is told is that something went wrong. -/

section Internal

variable {F : Failure AuthFault → ServiceState σ → Prop}

theorem newRefreshSecret_internal (h : ∀ st', F (.refused .internal) st') :
    Ensures (newRefreshSecret : Serve σ AuthFault String) st (fun _ st' => Quiet st st') F := by
  refine Ensures.get_bind ?_
  split
  · exact ⟨rfl, rfl⟩
  · exact internal_ensures fun st' _ => h st'

theorem expiryAfter_internal {lifetime : Duration} (h : ∀ st', F (.refused .internal) st') :
    Ensures (expiryAfter lifetime : Serve σ AuthFault Instant) st (fun _ st' => st' = st) F := by
  refine Ensures.get_bind ?_
  split
  · rfl
  · exact internal_ensures fun st' _ => h st'

theorem issue_internal {user : User} {secret : String} {expires : Instant}
    (h : ∀ st', F (.refused .internal) st') :
    Ensures (s.issue user secret expires) st (fun _ st' => st' = st) F := by
  have hmint : Ensures (s.mintAccess user) st (fun _ st' => st' = st) F := by
    refine Ensures.get_bind ?_
    dsimp only
    split
    · rfl
    · exact internal_ensures fun st' _ => h st'
  refine Ensures.bind hmint ?_
  intro _ _ hst
  exact hst

end Internal

/-! ## Calls of the store -/

section Calls

variable {operation : String} {P : α → World σ → Prop}

/-- A call of the store hands on a value or a fault; where the store does not answer, or panics, the
operation fails. -/
theorem bounded_ensures {a : Act σ ε α} {G : Failure ε → World σ → Prop}
    (h : Ensures a st.world P G) :
    Ensures (s.bounded operation a) st
      (fun r st' => ∃ w, st' = { st with world := w } ∧ match r with
        | .ok x => P x w
        | .error fault => G (.refused fault) w)
      (fun e st' => ∃ f w, G f w ∧ st'.world.store = w.store ∧ match f with
        | .refused _ => False
        | .stalled => e = .refused .internal
        | .panicked => e = .panicked) := by
  refine Ensures.get_bind ?_
  unfold Ensures at h
  -- a silent store is reported, and its silence is then a fault of the service
  rcases ha : a st.world with ⟨(fault | _ | _) | x, w⟩ <;> rw [ha] at h
  · exact ⟨w, rfl, h⟩
  · exact Ensures.set_bind (internal_ensures fun _ hq => ⟨.stalled, w, h, hq.store, rfl⟩)
  · exact ⟨.panicked, w, h, rfl, rfl⟩
  · exact ⟨w, rfl, h⟩

/-- What the service fails with where the store of sessions does. -/
def failureOf : Failure SessionFault → Failure AuthFault
  | .refused fault => .refused (if fault.isRejection then .invalidRefreshToken else .internal)
  | .stalled => .refused .internal
  | .panicked => .panicked

theorem boundedSession_ensures {a : Act σ SessionFault α}
    {G : Failure SessionFault → World σ → Prop} (h : Ensures a st.world P G) :
    Ensures (s.boundedSession operation a) st
      (fun x st' => ∃ w, st' = { st with world := w } ∧ P x w)
      (fun e st' => ∃ f w, G f w ∧ st'.world.store = w.store ∧ e = failureOf f) := by
  refine Ensures.bind_mono (bounded_ensures h) ?_ ?_
  · rintro e st' ⟨(_ | _ | _), w, hg, hst, he⟩
    · exact absurd he id
    · exact ⟨.stalled, w, hg, hst, he⟩
    · exact ⟨.panicked, w, hg, hst, he⟩
  · rintro (fault | x) st' ⟨w, rfl, hw⟩
    · show Ensures (sessionFault operation fault) _ _ _
      unfold sessionFault
      by_cases hr : fault.isRejection
      · rw [if_pos hr]
        refine Serve.report_bind fun _ hq => ⟨.refused fault, w, hw, hq.store, ?_⟩
        rw [failureOf, if_pos hr]
      · rw [if_neg hr]
        refine internal_ensures fun _ hq => ⟨.refused fault, w, hw, hq.store, ?_⟩
        rw [failureOf, if_neg hr]
    · exact ⟨w, rfl, hw⟩

end Calls

end Service

end SessionAuth
