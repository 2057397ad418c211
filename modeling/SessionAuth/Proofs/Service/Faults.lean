import SessionAuth.Proofs.Service.Permit
import SessionAuth.Proofs.Service.Run
import SessionAuth.Proofs.Store.Faults

/-!
What the service refuses with.

Each request has its list of faults, with the texts that go with them, and nothing else comes back where
the store rejects secrets only (`Service.serve_documented`). A fault of the store, of the random source or
of signing is reported and becomes an internal one; what it says stays inside.
-/

set_option autoImplicit false

namespace SessionAuth

variable {σ ε α : Type} {st : ServiceState σ}

/-! ## Faults of requests -/

/-- What a registration may be refused with. -/
def registerFaults : List AuthFault :=
  [.invalidArgument "invalid email", .invalidArgument "password must be at least 12 characters",
    .alreadyExists, .internal]

/-- What a login may be refused with. -/
def loginFaults : List AuthFault :=
  [.invalidArgument "invalid email", .invalidArgument "password required", .invalidCredentials,
    .internal]

/-- What may be said about a secret that is presented. -/
def secretFaults : List AuthFault :=
  [.invalidArgument "refresh_token required", .invalidRefreshToken, .internal]

/-- What may be said about an access token. -/
def tokenFaults : List AuthFault := [.invalidArgument "access_token required", .invalidToken]

/-- **What a request may be refused with.** -/
def Request.faults : Request → List AuthFault
  | .register _ _ => registerFaults
  | .login _ _ _ => loginFaults
  | .refresh _ _ | .logout _ => secretFaults
  | .validate _ => tokenFaults
  | .logoutAll _ => [.internal]

section

variable {faults : List AuthFault}

/-- **A failure that is documented**: if it is a refusal, its fault is on the list. -/
def Documented (faults : List AuthFault) (e : Failure AuthFault) (_ : ServiceState σ) : Prop :=
  ∀ fault, e = .refused fault → fault ∈ faults

theorem documented_refused {fault : AuthFault} (h : fault ∈ faults) (st : ServiceState σ) :
    Documented faults (.refused fault) st := by
  intro fault' heq
  rw [← Failure.refused.inj heq]
  exact h

/-- Where an action waits for a permit, nothing is refused. -/
theorem NeedsPermit.documented {a : Serve σ AuthFault α} {P : α → Prop} (h : NeedsPermit a st P) :
    Ensures a st (fun x st' => P x ∧ Quiet st st') (Documented faults) := by
  refine h.mono (fun _ _ ⟨_, hP, _, hquiet⟩ => ⟨hP, hquiet⟩) ?_
  rintro _ _ ⟨-, rfl, -⟩ fault hfault
  cases hfault

namespace Service

variable {s : Service σ} {Q : α → ServiceState σ → Prop}

/-! ## Parts of the operations -/

/-- What goes wrong inside is not told. -/
theorem internal_documented {e : Event} (h : .internal ∈ faults) :
    Ensures (internal e : Serve σ AuthFault α) st Q (Documented faults) :=
  internal_ensures fun st' _ => documented_refused h st'

/-- What is reported beforehand does not matter to a refusal. -/
theorem refuse_documented {e : Event} {fault : AuthFault} (h : fault ∈ faults) :
    Ensures (do Serve.report e; Serve.refuse fault : Serve σ AuthFault α) st Q
      (Documented faults) :=
  Serve.report_bind fun st' _ => documented_refused h st'

theorem requireEmail_documented {raw : String} (h : .invalidArgument "invalid email" ∈ faults) :
    Ensures (requireEmail raw : Serve σ AuthFault Email) st (fun _ st' => st' = st)
      (Documented faults) := by
  unfold requireEmail
  split
  · rfl
  · exact refuse_documented h

theorem requireArgument_documented {value field : String}
    (h : .invalidArgument (field ++ " required") ∈ faults) :
    Ensures (requireArgument value field : Serve σ AuthFault String) st (fun _ st' => st' = st)
      (Documented faults) := by
  unfold requireArgument required
  by_cases hblank : (Text.trim value.toList).isEmpty = true
  · rw [if_pos hblank]
    exact documented_refused h st
  · rw [if_neg hblank]
    rfl

theorem authenticate_documented {user : User} {password : String}
    (hcredentials : .invalidCredentials ∈ faults) (hinternal : .internal ∈ faults) :
    Ensures (authenticate Serve.verify user password : Serve σ AuthFault Unit) st
      (fun _ st' => Quiet st st') (Documented faults) := by
  refine Ensures.bind Serve.verify_needsPermit.documented ?_
  rintro r st₁ ⟨-, h₁⟩
  split
  · exact h₁
  · exact refuse_documented hcredentials
  · exact refuse_documented hcredentials
  · exact internal_documented hinternal

/-! ### Calls of the store -/

theorem draw_documented {f : RandomSource → Option (α × RandomSource)} :
    Ensures (Serve.act (Act.draw f) : Serve σ AuthFault α) st (fun _ _ => True)
      (Documented faults) := by
  refine Serve.draw_panics.mono (fun _ _ h => h) ?_
  rintro _ _ rfl fault hfault
  cases hfault

/-- A store that does not answer is an internal matter. -/
theorem bounded_documented {operation : String} {a : Act σ ε α} {P : α → World σ → Prop}
    (h : Ensures a st.world P fun _ _ => True) (hinternal : .internal ∈ faults) :
    Ensures (s.bounded operation a) st
      (fun r st' => ∀ x, r = .ok x → P x st'.world) (Documented faults) := by
  refine (bounded_ensures h).mono ?_ ?_
  · rintro (fault | x) _ ⟨w, rfl, hr⟩ y hy
    · cases hy
    · rw [← Except.ok.inj hy]
      exact hr
  · rintro e st' ⟨_ | _ | _, _, -, -, he⟩
    · exact he.elim
    · rw [he]
      exact documented_refused hinternal st'
    · rw [he]
      exact nofun

/-- The store may only reject where a rejection is documented. -/
theorem boundedSession_documented {operation : String} {a : Act σ SessionFault α}
    (h : Ensures a st.world (fun _ _ => True) (fun e _ => ∀ fault, e = .refused fault →
      fault.isRejection = true → .invalidRefreshToken ∈ faults))
    (hinternal : .internal ∈ faults) :
    Ensures (s.boundedSession operation a) st (fun _ _ => True) (Documented faults) := by
  refine (boundedSession_ensures h).mono (fun _ _ _ => trivial) ?_
  rintro e st' ⟨f, w, hf, -, rfl⟩
  cases f with
  | refused fault =>
    by_cases hrejection : fault.isRejection = true
    · rw [failureOf, if_pos hrejection]
      exact documented_refused (hf fault rfl hrejection) st'
    · rw [failureOf, if_neg hrejection]
      exact documented_refused hinternal st'
  | stalled => exact documented_refused hinternal st'
  | panicked =>
    intro fault hfault
    cases hfault

/-- Where no secret is presented, nothing but an internal fault comes of a call. -/
theorem boundedSession_internal {operation : String} {a : Act σ SessionFault α}
    (h : Ensures a st.world (fun _ _ => True)
      (fun e _ => ∀ fault, e = .refused fault → fault.isRejection = false))
    (hinternal : .internal ∈ faults) :
    Ensures (s.boundedSession operation a) st (fun _ _ => True) (Documented faults) := by
  refine boundedSession_documented (h.mono (fun _ _ _ => trivial) ?_) hinternal
  intro e _ he fault hfault hrejection
  rw [he fault hfault] at hrejection
  cases hrejection

/-! ## Operations -/

theorem register_documented (raw password : String) :
    Ensures (s.register raw password) st (fun _ _ => True)
      (Documented registerFaults) := by
  have hinternal : AuthFault.internal ∈ registerFaults := by decide
  have hleast : "password must be at least " ++ Decimal.toText Password.leastLength ++ " characters"
      = "password must be at least 12 characters" := by decide +kernel
  refine Ensures.bind (requireEmail_documented (by decide)) ?_
  rintro email st rfl
  split
  · refine Ensures.bind Serve.hash_needsPermit.documented ?_
    rintro (fault | hash) st₁ -
    · exact internal_documented hinternal
    refine Ensures.get_bind (Ensures.bind draw_documented ?_)
    intro user st₂ _
    refine Ensures.bind (bounded_documented (Ensures.itself.mono (fun _ _ h => h)
      fun _ _ _ => trivial) hinternal) ?_
    rintro r st₃ -
    -- an address that is taken is said to be; every other fault of the store is an internal one
    split
    · exact Serve.report_bind fun _ _ => trivial
    · exact refuse_documented (by decide)
    · exact internal_documented hinternal
  · rw [hleast]
    exact documented_refused (by decide) st

theorem openSession_documented {ready : σ → Prop} {user : User} {client : Client}
    (hstore : s.store.RejectsSecretsOnly ready) (hst : ready st.world.store)
    (hinternal : .internal ∈ faults) :
    Ensures (s.openSession user client) st (fun _ _ => True) (Documented faults) := by
  refine Ensures.bind (newRefreshSecret_internal (documented_refused hinternal)) ?_
  intro secret st₁ h₁
  refine Ensures.bind (expiryAfter_internal (documented_refused hinternal)) ?_
  rintro expires st₁ rfl
  refine Ensures.bind (issue_internal (documented_refused hinternal)) ?_
  rintro tokens st₁ rfl
  have hready : ready st₁.world.store := by
    rw [h₁.store]
    exact hst
  refine Ensures.bind (boundedSession_internal
    (hstore.createSession user.id secret expires client none hready) hinternal) ?_
  intro id st₂ _
  exact Serve.report_bind fun _ _ => trivial

theorem login_documented {ready : σ → Prop} (hstore : s.store.RejectsSecretsOnly ready)
    (hst : ready st.world.store) (raw password : String) (client : Client) :
    Ensures (s.login raw password client) st (fun _ _ => True)
      (Documented loginFaults) := by
  have hinternal : AuthFault.internal ∈ loginFaults := by decide
  have hcredentials : AuthFault.invalidCredentials ∈ loginFaults := by
    decide
  refine Ensures.bind (requireEmail_documented (by decide)) ?_
  rintro email st rfl
  show Ensures (if password.isEmpty then _ else _) _ _ _
  split
  · exact documented_refused (by decide) st
  refine Ensures.bind (bounded_documented ((hstore.findUserByEmail email hst).mono (fun _ _ h => h)
    fun _ _ _ => trivial) hinternal) ?_
  rintro (fault | _ | user) st₁ hready
  · exact internal_documented hinternal
  · refine Ensures.bind equalizeUnknownUser_needsPermit.documented ?_
    intro _ st₂ _
    exact refuse_documented hcredentials
  · refine Ensures.bind (authenticate_documented hcredentials hinternal) ?_
    intro _ st₂ h₂
    apply openSession_documented hstore _ hinternal
    rw [h₂.store]
    exact hready _ rfl

theorem refresh_documented (raw : String) (client : Client) :
    Ensures (s.refresh raw client) st (fun _ _ => True)
      (Documented secretFaults) := by
  have hinternal : AuthFault.internal ∈ secretFaults := by decide
  have hrejected : AuthFault.invalidRefreshToken ∈ secretFaults := by decide
  refine Ensures.bind (requireArgument_documented (by decide)) ?_
  rintro secret st rfl
  refine Ensures.bind (newRefreshSecret_internal (documented_refused hinternal)) ?_
  intro newSecret st₁ _
  refine Ensures.bind (expiryAfter_internal (documented_refused hinternal)) ?_
  rintro expires st₁ rfl
  refine Ensures.bind (boundedSession_documented (Ensures.itself.mono (fun _ _ _ => trivial)
    fun _ _ _ _ _ _ => hrejected) hinternal) ?_
  intro r st₂ _
  refine Serve.report_bind fun st₃ _ => ?_
  exact (issue_internal (documented_refused hinternal)).mono (fun _ _ _ => trivial) fun _ _ h => h

theorem validate_documented (raw : String) :
    Ensures (s.validate raw) st (fun _ _ => True) (Documented tokenFaults) := by
  refine Ensures.bind (requireArgument_documented (by decide)) ?_
  rintro token st rfl
  refine Ensures.get_bind ?_
  split
  · trivial
  · exact nofun
  · exact refuse_documented (by decide)

theorem logout_documented (raw : String) :
    Ensures (s.logout raw) st (fun _ _ => True) (Documented secretFaults) := by
  have hrejected : AuthFault.invalidRefreshToken ∈ secretFaults := by decide
  refine Ensures.bind (requireArgument_documented (by decide)) ?_
  rintro secret st rfl
  refine Ensures.bind (boundedSession_documented (Ensures.itself.mono (fun _ _ _ => trivial)
    fun _ _ _ _ _ _ => hrejected) (by decide)) ?_
  intro _ st₁ _
  exact Serve.report_ensures fun _ _ => trivial

theorem logoutAll_documented {ready : σ → Prop} (hstore : s.store.RejectsSecretsOnly ready)
    (hst : ready st.world.store) (user : UserId) :
    Ensures (s.logoutAll user) st (fun _ _ => True)
      (Documented [.internal]) := by
  refine Ensures.bind (boundedSession_internal (hstore.revokeAllSessions user hst) (by decide)) ?_
  intro n st₁ _
  exact Serve.report_bind fun _ _ => trivial

/-- **A request is refused with what is on its list**, whatever goes wrong. -/
theorem serve_documented {ready : σ → Prop} (hstore : s.store.RejectsSecretsOnly ready)
    (hst : ready st.world.store) (q : Request) :
    Ensures (s.serve q) st (fun _ _ => True) (Documented q.faults) := by
  cases q with
  | register raw password => exact register_documented raw password
  | login raw password client => exact login_documented hstore hst raw password client
  | refresh raw client => exact refresh_documented raw client
  | validate raw => exact validate_documented raw
  | logout raw => exact logout_documented raw
  | logoutAll user => exact logoutAll_documented hstore hst user

end Service

end

end SessionAuth
