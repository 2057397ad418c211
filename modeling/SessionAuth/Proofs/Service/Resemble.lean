import SessionAuth.Proofs.Service.Run
import SessionAuth.Proofs.Store.Faults

/-!
Services on stores that resemble each other.

The service decides by the kind of a fault, and what a fault says goes into an event. So two services that
differ in what their stores say of a failure answer every request the same (`Service.Resembles.serve`).
Each part of an operation is run on both sides at once; what is reported may differ, and is not looked at
by anything that follows.
-/

set_option autoImplicit false

namespace SessionAuth

variable {σ σ' ε α α' β β' : Type}

/-! ## States and actions side by side -/

/-- **Services in states that match**: their surroundings do, and the pool and the hash for unknown
addresses are the same. -/
structure ServiceState.Matches (R : σ → σ' → Prop) (st : ServiceState σ) (st' : ServiceState σ') :
    Prop where
  world : st.world.Matches R st'.world
  pool : st.pool = st'.pool
  dummyHash : st.dummyHash = st'.dummyHash

/-- **Actions side by side**: from states that match, they end with values alike or with the same failure,
and in states that match again. -/
def SideBySide (R : σ → σ' → Prop) (V : α → α' → Prop) (a : Serve σ ε α) (a' : Serve σ' ε α') : Prop :=
  ∀ st st', ServiceState.Matches R st st' → Agree (ServiceState.Matches R) V Eq a a' st st'

/-- Results alike: the same value, or faults that are alike. -/
inductive ResultsAlike (alike : ε → ε → Prop) : Except ε α → Except ε α → Prop where
  | ok {x : α} : ResultsAlike alike (.ok x) (.ok x)
  | error {fault fault' : ε} (h : alike fault fault') :
      ResultsAlike alike (.error fault) (.error fault')

namespace SideBySide

variable {R : σ → σ' → Prop} {V : α → α' → Prop} {W : β → β' → Prop} {a : Serve σ ε α}
  {a' : Serve σ' ε α'}

theorem pure {x : α} {x' : α'} (h : V x x') :
    SideBySide R V (pure x : Serve σ ε α) (pure x' : Serve σ' ε α') :=
  fun _ _ hst => .pure h hst

theorem throw (e : Failure ε) :
    SideBySide R V (throw e : Serve σ ε α) (throw e : Serve σ' ε α') :=
  fun _ _ hst => .throw rfl hst

theorem refuse (fault : ε) :
    SideBySide R V (Serve.refuse fault : Serve σ ε α) (Serve.refuse fault : Serve σ' ε α') :=
  throw (.refused fault)

theorem bind {f : α → Serve σ ε β} {f' : α' → Serve σ' ε β'} (h : SideBySide R V a a')
    (hf : ∀ x x', V x x' → SideBySide R W (f x) (f' x')) : SideBySide R W (a >>= f) (a' >>= f') := by
  intro st st' hst
  refine (h st st' hst).bind ?_
  intro x x' t t' hx ht
  exact hf x x' hx t t' ht

/-- What is done with the states may depend on them, as far as they match. -/
theorem get_bind {f : ServiceState σ → Serve σ ε β} {f' : ServiceState σ' → Serve σ' ε β'}
    (h : ∀ st st', ServiceState.Matches R st st' →
      Agree (ServiceState.Matches R) W Eq (f st) (f' st') st st') :
    SideBySide R W (get >>= f) (get >>= f') := fun st st' hst => .get_bind (h st st' hst)

/-- What is reported does not have to be the same. -/
theorem report (e e' : Event) :
    SideBySide R Eq (Serve.report e : Serve σ ε Unit) (Serve.report e' : Serve σ' ε Unit) :=
  fun _ _ hst => .value rfl ⟨⟨hst.world.now, hst.world.random, hst.world.store⟩, hst.pool, hst.dummyHash⟩

theorem report_bind {e e' : Event} {f : Unit → Serve σ ε β} {f' : Unit → Serve σ' ε β'}
    (h : SideBySide R W (f ()) (f' ())) :
    SideBySide R W (Serve.report e >>= f) (Serve.report e' >>= f') :=
  (report e e').bind fun _ _ _ => h

theorem internal (e e' : Event) :
    SideBySide R V (Service.internal e : Serve σ AuthFault α)
      (Service.internal e' : Serve σ' AuthFault α') :=
  report_bind (refuse AuthFault.internal)

/-! ## Parts that stay away from the store -/

/-- The pool hashes a password the same way where it draws the same bytes. -/
theorem hash (password : String) :
    SideBySide R Eq (Serve.hash password : Serve σ ε (Except PasswordFault String))
      (Serve.hash password : Serve σ' ε (Except PasswordFault String)) := by
  intro st st' hst
  unfold Agree Serve.hash
  rw [← hst.pool, ← hst.world.random]
  cases st.pool.hash? password st.world.random with
  | none => exact .failure rfl hst
  | some hashed => exact .value rfl ⟨⟨hst.world.now, rfl, hst.world.store⟩, rfl, hst.dummyHash⟩

theorem verify (password encoded : String) :
    SideBySide R Eq (Serve.verify password encoded : Serve σ ε (Except PasswordFault Unit))
      (Serve.verify password encoded : Serve σ' ε (Except PasswordFault Unit)) := by
  intro st st' hst
  unfold Agree Serve.verify
  rw [← hst.pool]
  cases st.pool.verify? password encoded with
  | none => exact .failure rfl hst
  | some verified => exact .value rfl ⟨hst.world, rfl, hst.dummyHash⟩

theorem draw (f : RandomSource → Option (α × RandomSource)) :
    SideBySide R Eq (Serve.act (Act.draw f) : Serve σ ε α) (Serve.act (Act.draw f) : Serve σ' ε α) := by
  intro st st' hst
  have hdraw : Agree (World.Matches R) Eq Eq (Act.draw f : Act σ ε α) (Act.draw f : Act σ' ε α)
      st.world st'.world := by
    unfold Act.draw
    apply Agree.get_bind
    rw [← hst.world.random]
    cases f st.world.random with
    | none => exact .throw rfl hst.world
    | some drawn => exact .modify_bind (.pure rfl ⟨hst.world.now, rfl, hst.world.store⟩)
  unfold Agree Serve.act at *
  generalize Act.draw f st.world = r at hdraw
  generalize Act.draw f st'.world = r' at hdraw
  cases hdraw with
  | value hx ht => exact .value hx ⟨ht, hst.pool, hst.dummyHash⟩
  | failure he ht => exact .failure he ⟨ht, hst.pool, hst.dummyHash⟩

theorem requireEmail (raw : String) :
    SideBySide R Eq (Service.requireEmail raw : Serve σ AuthFault Email)
      (Service.requireEmail raw : Serve σ' AuthFault Email) := by
  unfold Service.requireEmail
  cases Email.parse raw with
  | ok email => exact pure rfl
  | error flaw => exact report_bind (refuse _)

theorem requireArgument (value field : String) :
    SideBySide R Eq (Service.requireArgument value field : Serve σ AuthFault String)
      (Service.requireArgument value field : Serve σ' AuthFault String) := by
  unfold Service.requireArgument
  cases Service.required value field with
  | ok text => exact pure rfl
  | error fault => exact refuse fault

theorem newRefreshSecret :
    SideBySide R Eq (Service.newRefreshSecret : Serve σ AuthFault String)
      (Service.newRefreshSecret : Serve σ' AuthFault String) := by
  refine get_bind fun st st' hst => ?_
  rw [← hst.world.random]
  cases RefreshSecret.draw? st.world.random with
  | none => exact internal _ _ st st' hst
  | some drawn =>
    exact .modify_bind (.pure rfl ⟨⟨hst.world.now, rfl, hst.world.store⟩, hst.pool, hst.dummyHash⟩)

theorem expiryAfter (lifetime : Duration) :
    SideBySide R Eq (Service.expiryAfter lifetime : Serve σ AuthFault Instant)
      (Service.expiryAfter lifetime : Serve σ' AuthFault Instant) := by
  refine get_bind fun st st' hst => ?_
  rw [← hst.world.now]
  cases st.world.now.after? lifetime with
  | none => exact internal _ _ st st' hst
  | some expires => exact .pure rfl hst

/-- The hash for unknown addresses is there on both sides, or is made on both. -/
theorem prepareDummyHash :
    SideBySide R Eq (Service.prepareDummyHash : Serve σ AuthFault (Except PasswordFault String))
      (Service.prepareDummyHash : Serve σ' AuthFault (Except PasswordFault String)) := by
  refine get_bind fun st st' hst => ?_
  rw [← hst.dummyHash]
  cases st.dummyHash with
  | some hash => exact .pure rfl hst
  | none =>
    refine (hash Service.dummyPassword st st' hst).bind ?_
    rintro (fault | text) _ t t' rfl ht
    · exact .pure rfl ht
    · exact .modify_bind (.pure rfl ⟨ht.world, ht.pool, rfl⟩)

theorem equalizeUnknownUser (password : String) :
    SideBySide R Eq (Service.equalizeUnknownUser Serve.verify password : Serve σ AuthFault Unit)
      (Service.equalizeUnknownUser Serve.verify password : Serve σ' AuthFault Unit) := by
  refine prepareDummyHash.bind ?_
  rintro (fault | text) _ rfl
  · exact report _ _
  · exact (verify password text).bind fun _ _ _ => pure rfl

theorem authenticate (user : User) (password : String) :
    SideBySide R Eq (Service.authenticate Serve.verify user password : Serve σ AuthFault Unit)
      (Service.authenticate Serve.verify user password : Serve σ' AuthFault Unit) := by
  refine (verify password user.passwordHash).bind ?_
  rintro r _ rfl
  split
  · exact pure rfl
  · exact report_bind (refuse _)
  · exact report_bind (refuse _)
  · exact internal _ _

end SideBySide

/-! ## Services -/

/-- **Services that resemble each other**: the stores do, and all else is the same. -/
structure Service.Resembles (R : σ → σ' → Prop) (s : Service σ) (s' : Service σ') : Prop where
  store : Store.Resembles R s.store s'.store
  signer : s.signer = s'.signer
  settings : s.settings = s'.settings

namespace Service.Resembles

variable {R : σ → σ' → Prop} {s : Service σ} {s' : Service σ'}

theorem issue (h : s.Resembles R s') (user : User) (secret : String) (expires : Instant) :
    SideBySide R Eq (s.issue user secret expires) (s'.issue user secret expires) := by
  have hmint : SideBySide R Eq (s.mintAccess user) (s'.mintAccess user) := by
    refine SideBySide.get_bind fun st st' hst => ?_
    dsimp only
    rw [← hst.world.now, ← h.signer, ← h.settings]
    cases s.signer.mint st.world.now user.id.toText user.email.text s.settings.accessLifetime with
    | ok minted => exact .pure rfl hst
    | error fault => exact SideBySide.internal _ _ st st' hst
  refine hmint.bind ?_
  rintro token _ rfl
  refine SideBySide.pure ?_
  rw [h.settings]

/-! ### Calls of the store -/

/-- A call hands on what the stores have in common: the same value, or faults that are alike. Where they
are silent, both services fail in the same way, whatever they report. -/
theorem bounded {alike : ε → ε → Prop} {a : Act σ ε α} {a' : Act σ' ε α} (operation : String)
    (h : CallsResemble R alike a a') :
    SideBySide R (ResultsAlike alike) (s.bounded operation a) (s'.bounded operation a') := by
  refine SideBySide.get_bind fun st st' hst => ?_
  have hcall : EndsAlike _ _ _ (a st.world) (a' st'.world) := h st.world st'.world hst.world
  generalize a st.world = r at hcall
  generalize a' st'.world = r' at hcall
  cases hcall with
  | @value x x' w w' hx hw =>
    obtain rfl : x = x' := hx
    exact .set_bind (.pure .ok ⟨hw, hst.pool, hst.dummyHash⟩)
  | @failure e e' w w' he hw =>
    have hst' : ServiceState.Matches R { st with world := w } { st' with world := w' } :=
      ⟨hw, hst.pool, hst.dummyHash⟩
    apply Agree.set_bind
    cases he with
    | refused hfault => exact .pure (.error hfault) hst'
    | stalled => exact SideBySide.internal _ _ _ _ hst'
    | panicked => exact .throw rfl hst'

theorem boundedSession {a : Act σ SessionFault α} {a' : Act σ' SessionFault α} (operation : String)
    (h : CallsResemble R SessionFault.Alike a a') :
    SideBySide R Eq (s.boundedSession operation a) (s'.boundedSession operation a') := by
  refine (bounded operation h).bind ?_
  rintro _ _ (_ | hfault)
  · exact SideBySide.pure rfl
  · rename_i fault fault'
    show SideBySide R Eq (sessionFault operation fault) (sessionFault operation fault')
    unfold sessionFault
    rw [← hfault.isRejection]
    -- a rejection is one on both sides, and neither says of which kind it is
    by_cases hrejection : fault.isRejection = true
    · rw [if_pos hrejection, if_pos hrejection]
      exact SideBySide.report_bind (SideBySide.refuse _)
    · rw [if_neg hrejection, if_neg hrejection]
      exact SideBySide.internal _ _

/-! ### Operations -/

theorem register (h : s.Resembles R s') (raw password : String) :
    SideBySide R Eq (s.register raw password) (s'.register raw password) := by
  refine (SideBySide.requireEmail raw).bind ?_
  rintro email _ rfl
  cases Password.ofText? password with
  | none => exact SideBySide.refuse _
  | some password =>
    refine (SideBySide.hash password.text).bind ?_
    rintro (fault | hash) _ rfl
    · exact SideBySide.internal _ _
    refine SideBySide.get_bind fun st st' hst => ?_
    rw [← hst.world.now]
    refine (SideBySide.draw _).bind ?_ st st' hst
    rintro user _ rfl
    refine (bounded "create_user" (h.store.createUser user)).bind ?_
    rintro _ _ (_ | hfault)
    · exact SideBySide.report_bind (SideBySide.pure rfl)
    · -- whose address it was that is taken is not told, nor what went wrong otherwise
      cases hfault with
      | emailTaken => exact SideBySide.report_bind (SideBySide.refuse _)
      | _ => exact SideBySide.internal _ _

theorem openSession (h : s.Resembles R s') (user : User) (client : Client) :
    SideBySide R Eq (s.openSession user client) (s'.openSession user client) := by
  refine SideBySide.newRefreshSecret.bind ?_
  rintro secret _ rfl
  rw [← h.settings]
  refine (SideBySide.expiryAfter s.settings.refreshLifetime).bind ?_
  rintro expires _ rfl
  refine (h.issue user secret expires).bind ?_
  rintro tokens _ rfl
  refine (boundedSession "create_session"
    (h.store.createSession user.id secret expires client none)).bind ?_
  rintro id _ rfl
  exact SideBySide.report_bind (SideBySide.pure rfl)

theorem login (h : s.Resembles R s') (raw password : String) (client : Client) :
    SideBySide R Eq (s.login raw password client) (s'.login raw password client) := by
  refine (SideBySide.requireEmail raw).bind ?_
  rintro email _ rfl
  intro st st' hst
  refine Agree.ite (fun _ => SideBySide.refuse _ st st' hst) fun _ => ?_
  refine (bounded "find_user_by_email" (h.store.findUserByEmail email)).bind ?_ st st' hst
  rintro _ _ (_ | _)
  · rename_i user?
    cases user? with
    | none =>
      refine (SideBySide.equalizeUnknownUser password).bind ?_
      rintro _ _ rfl
      exact SideBySide.report_bind (SideBySide.refuse _)
    | some user =>
      refine (SideBySide.authenticate user password).bind ?_
      rintro _ _ rfl
      exact h.openSession user client
  · exact SideBySide.internal _ _

theorem refresh (h : s.Resembles R s') (raw : String) (client : Client) :
    SideBySide R Eq (s.refresh raw client) (s'.refresh raw client) := by
  refine (SideBySide.requireArgument raw "refresh_token").bind ?_
  rintro secret _ rfl
  refine SideBySide.newRefreshSecret.bind ?_
  rintro newSecret _ rfl
  rw [← h.settings]
  refine (SideBySide.expiryAfter s.settings.refreshLifetime).bind ?_
  rintro expires _ rfl
  refine (boundedSession "rotate_session"
    (h.store.rotateSession secret newSecret expires client)).bind ?_
  rintro rotated _ rfl
  exact SideBySide.report_bind (h.issue rotated.user newSecret expires)

theorem validate (h : s.Resembles R s') (raw : String) :
    SideBySide R Eq (s.validate raw) (s'.validate raw) := by
  refine (SideBySide.requireArgument raw "access_token").bind ?_
  rintro token _ rfl
  refine SideBySide.get_bind fun st st' hst => ?_
  rw [← hst.world.now, ← h.signer]
  split
  · exact .pure rfl hst
  · exact .throw rfl hst
  · exact SideBySide.report_bind (SideBySide.refuse AuthFault.invalidToken) st st' hst

theorem logout (h : s.Resembles R s') (raw : String) :
    SideBySide R Eq (s.logout raw) (s'.logout raw) := by
  refine (SideBySide.requireArgument raw "refresh_token").bind ?_
  rintro secret _ rfl
  refine (boundedSession "revoke_session" (h.store.revokeSession secret)).bind ?_
  rintro _ _ rfl
  exact SideBySide.report _ _

theorem logoutAll (h : s.Resembles R s') (user : UserId) :
    SideBySide R Eq (s.logoutAll user) (s'.logoutAll user) := by
  refine (boundedSession "revoke_all_sessions" (h.store.revokeAllSessions user)).bind ?_
  rintro n _ rfl
  exact SideBySide.report_bind (SideBySide.pure rfl)

/-- **Every request is answered the same** by services that resemble each other. -/
theorem serve (h : s.Resembles R s') (q : Request) : SideBySide R Eq (s.serve q) (s'.serve q) := by
  cases q with
  | register raw password => exact h.register raw password
  | login raw password client => exact h.login raw password client
  | refresh raw client => exact h.refresh raw client
  | validate raw => exact h.validate raw
  | logout raw => exact h.logout raw
  | logoutAll user => exact h.logoutAll user

end Service.Resembles

end SessionAuth
