import SessionAuth.Proofs.Service.Permit
import SessionAuth.Proofs.Service.Run

/-!
What a request does to the state of the service, whatever comes of it.

An operation of the service is put together from few steps: it looks at its state, draws and reports, it
hashes and checks passwords in the pool, it makes the hash for unknown addresses, and it calls the store.
So a relation to which each of these steps keeps (`Store.StepsAlong`) is one to which every request keeps,
and so does a run of requests. The proof walks through the operations once; what is to be known about the
pool, the store or the hash for unknown addresses is shown step by step.

Most of the time it is the store that is looked at. Of the steps only a call touches it, and a permit that
has been taken from the pool is given back; so if every call moves the store along a relation, then
every request does (`serve_moves`, `run_moves`).
-/

set_option autoImplicit false

namespace SessionAuth

variable {σ τ ε α β : Type} {r : σ → σ → Prop}

/-- **A step of a service whose store moves along a relation**, and whose pool is as it was. -/
structure ServiceState.Moves (r : σ → σ → Prop) (st st' : ServiceState σ) : Prop where
  pool : st'.pool = st.pool
  store : r st.world.store st'.world.store

/-- **A store that moves along a relation**, whichever way it is called and whatever it answers. -/
structure Store.MovesAlong (store : Store σ) (r : σ → σ → Prop) : Prop where
  refl : ∀ m, r m m
  trans : ∀ a b c, r a b → r b c → r a c
  createUser : ∀ u, Keeps (World.Moves r) (store.createUser u)
  findUserByEmail : ∀ email, Keeps (World.Moves r) (store.findUserByEmail email)
  createSession : ∀ u secret expiresAt client rotatedFrom,
    Keeps (World.Moves r) (store.createSession u secret expiresAt client rotatedFrom)
  rotateSession : ∀ oldSecret newSecret expiresAt client,
    Keeps (World.Moves r) (store.rotateSession oldSecret newSecret expiresAt client)
  revokeSession : ∀ secret, Keeps (World.Moves r) (store.revokeSession secret)
  revokeAllSessions : ∀ u, Keeps (World.Moves r) (store.revokeAllSessions u)

/-- Every store moves along the relation that asks for nothing. -/
theorem Store.movesAlong_true (store : Store σ) : store.MovesAlong fun _ _ => True where
  refl _ := trivial
  trans _ _ _ _ _ := trivial
  createUser _ := Keeps.of_step fun _ => trivial
  findUserByEmail _ := Keeps.of_step fun _ => trivial
  createSession _ _ _ _ _ := Keeps.of_step fun _ => trivial
  rotateSession _ _ _ _ := Keeps.of_step fun _ => trivial
  revokeSession _ := Keeps.of_step fun _ => trivial
  revokeAllSessions _ := Keeps.of_step fun _ => trivial

/-! ## Steps -/

/-- **A step in the world**, apart from the store. -/
def ServiceState.Aside (st st' : ServiceState σ) : Prop :=
  ∃ w : World σ, w.store = st.world.store ∧ st' = { st with world := w }

/-- The permit is back when a worker has come to an end, so that its work is a step in the world. -/
theorem Serve.hash_aside {password : String} {st : ServiceState σ} :
    EndsIn st.Aside (hash password : Serve σ ε (Except PasswordFault String)) st :=
  hash_cases (fun _ => ⟨st.world, rfl, rfl⟩) (fun _ _ => ⟨st.world, rfl, rfl⟩)
    fun _ rest _ _ => ⟨{ st.world with random := rest }, rfl, rfl⟩

theorem Serve.verify_aside {password encoded : String} {st : ServiceState σ} :
    EndsIn st.Aside (verify password encoded : Serve σ ε (Except PasswordFault Unit)) st :=
  verify_cases (fun _ => ⟨st.world, rfl, rfl⟩) fun _ => ⟨st.world, rfl, rfl⟩

/-- **A relation to which the steps of a service keep**, of which its operations are put together: steps
in the world, the making of the hash for unknown addresses, and the calls of the store. -/
structure Store.StepsAlong (store : Store σ) (R : ServiceState σ → ServiceState σ → Prop) : Prop where
  refl : ∀ st, R st st
  trans : ∀ a b c, R a b → R b c → R a c
  aside : ∀ st st', st.Aside st' → R st st'
  fill : ∀ (st : ServiceState σ) (text : String), st.dummyHash = none →
    st.pool.hasher.Makes Service.dummyPassword text → R st { st with dummyHash := some text }
  createUser : ∀ u, Keeps R (Serve.act (store.createUser u))
  findUserByEmail : ∀ email, Keeps R (Serve.act (store.findUserByEmail email))
  createSession : ∀ u secret expiresAt client rotatedFrom,
    Keeps R (Serve.act (store.createSession u secret expiresAt client rotatedFrom))
  rotateSession : ∀ oldSecret newSecret expiresAt client,
    Keeps R (Serve.act (store.rotateSession oldSecret newSecret expiresAt client))
  revokeSession : ∀ secret, Keeps R (Serve.act (store.revokeSession secret))
  revokeAllSessions : ∀ u, Keeps R (Serve.act (store.revokeAllSessions u))

/-- A store that moves along a relation, in a service. -/
theorem Store.MovesAlong.steps {store : Store σ} (h : store.MovesAlong r) :
    store.StepsAlong (ServiceState.Moves r) where
  refl _ := ⟨rfl, h.refl _⟩
  trans _ _ _ h₁ h₂ := ⟨h₂.pool.trans h₁.pool, h.trans _ _ _ h₁.store h₂.store⟩
  aside st st' haside := by
    obtain ⟨w, hw, rfl⟩ := haside
    refine ⟨rfl, ?_⟩
    rw [hw]
    exact h.refl _
  fill _ _ _ _ := ⟨rfl, h.refl _⟩
  createUser u := Keeps.of_step fun st => ⟨rfl, (h.createUser u).step st.world⟩
  findUserByEmail email := Keeps.of_step fun st => ⟨rfl, (h.findUserByEmail email).step st.world⟩
  createSession u secret expiresAt client rotatedFrom := Keeps.of_step fun st =>
    ⟨rfl, (h.createSession u secret expiresAt client rotatedFrom).step st.world⟩
  rotateSession oldSecret newSecret expiresAt client := Keeps.of_step fun st =>
    ⟨rfl, (h.rotateSession oldSecret newSecret expiresAt client).step st.world⟩
  revokeSession secret := Keeps.of_step fun st => ⟨rfl, (h.revokeSession secret).step st.world⟩
  revokeAllSessions u := Keeps.of_step fun st => ⟨rfl, (h.revokeAllSessions u).step st.world⟩

namespace Store.StepsAlong

variable {R : ServiceState σ → ServiceState σ → Prop} {store : Store σ} {s : Service σ}
  {a : Serve σ AuthFault α} {f : α → Serve σ AuthFault β}

theorem pure (h : store.StepsAlong R) (x : α) : Keeps R (pure x : Serve σ AuthFault α) :=
  Keeps.pure h.refl x

theorem refuse (h : store.StepsAlong R) (fault : AuthFault) :
    Keeps R (Serve.refuse fault : Serve σ AuthFault α) := Keeps.throw h.refl _

theorem bind (h : store.StepsAlong R) (ha : Keeps R a) (hf : ∀ x, Keeps R (f x)) :
    Keeps R (a >>= f) := Keeps.bind h.trans ha hf

/-! ## What stays away from the store -/

theorem act (h : store.StepsAlong R) {b : Act σ AuthFault α}
    (hb : ∀ w, (b w).2.store = w.store) : Keeps R (Serve.act b) :=
  Keeps.of_step fun st => h.aside st _ ⟨_, hb st.world, rfl⟩

theorem report (h : store.StepsAlong R) (e : Event) :
    Keeps R (Serve.report e : Serve σ AuthFault Unit) := h.act fun _ => rfl

theorem draw (h : store.StepsAlong R) (g : RandomSource → Option (α × RandomSource)) :
    Keeps R (Serve.act (Act.draw g) : Serve σ AuthFault α) := by
  refine h.act fun w => ?_
  have hdraw : Ensures (Act.draw g : Act σ AuthFault α) w (fun _ w' => w'.store = w.store)
      (fun _ w' => w'.store = w.store) := Act.draw_ensures (fun _ _ _ => rfl) fun _ => rfl
  exact hdraw.ending (P := fun _ (w' : World σ) => w'.store = w.store)

theorem hash (h : store.StepsAlong R) (password : String) :
    Keeps R (Serve.hash password : Serve σ AuthFault (Except PasswordFault String)) :=
  Keeps.of_step fun st => h.aside st _ Serve.hash_aside.state

theorem verify (h : store.StepsAlong R) (password encoded : String) :
    Keeps R (Serve.verify password encoded : Serve σ AuthFault (Except PasswordFault Unit)) :=
  Keeps.of_step fun st => h.aside st _ Serve.verify_aside.state

/-! ## Parts of the operations -/

theorem internal (h : store.StepsAlong R) (e : Event) :
    Keeps R (Service.internal e : Serve σ AuthFault α) :=
  h.bind (h.report e) fun _ => h.refuse _

/-- A call that keeps to the relation does so in the service. -/
theorem bounded (h : store.StepsAlong R) (operation : String) {b : Act σ ε α}
    (hb : Keeps R (Serve.act b)) : Keeps R (s.bounded operation b) := by
  intro st
  refine Ensures.get_bind ?_
  have hst : R st { st with world := (b st.world).2 } := hb.step st
  -- a silent store is reported, and that touches it no further
  rcases hcall : b st.world with ⟨(_ | _ | _) | _, world⟩ <;> rw [hcall] at hst
  · exact hst
  · refine Ensures.set_bind ((h.internal _ { st with world }).mono ?_ ?_)
    · exact fun _ st' h' => h.trans _ _ _ hst h'
    · exact fun _ st' h' => h.trans _ _ _ hst h'
  · exact hst
  · exact hst

theorem sessionFault (h : store.StepsAlong R) (operation : String) (fault : SessionFault) :
    Keeps R (Service.sessionFault operation fault : Serve σ AuthFault α) := by
  unfold Service.sessionFault
  split
  · exact h.bind (h.report _) fun _ => h.refuse _
  · exact h.internal _

theorem boundedSession (h : store.StepsAlong R) (operation : String) {b : Act σ SessionFault α}
    (hb : Keeps R (Serve.act b)) : Keeps R (s.boundedSession operation b) := by
  refine h.bind (h.bounded operation hb) ?_
  rintro (fault | x)
  · exact h.sessionFault operation fault
  · exact h.pure x

theorem requireArgument (h : store.StepsAlong R) (value field : String) :
    Keeps R (Service.requireArgument value field : Serve σ AuthFault String) := by
  unfold Service.requireArgument
  split
  · exact h.pure _
  · exact h.refuse _

theorem requireEmail (h : store.StepsAlong R) (raw : String) :
    Keeps R (Service.requireEmail raw : Serve σ AuthFault Email) := by
  unfold Service.requireEmail
  split
  · exact h.pure _
  · exact h.bind (h.report _) fun _ => h.refuse _

/-- What is kept for unknown addresses has been made by the hasher, and nothing had been kept before. -/
theorem prepareDummyHash (h : store.StepsAlong R) :
    Keeps R (Service.prepareDummyHash : Serve σ AuthFault (Except PasswordFault String)) := by
  intro st
  refine Ensures.get_bind ?_
  split
  · exact h.refl st
  rename_i hnone
  refine Ensures.bind_mono (Serve.hash_ensures.and Serve.hash_aside) ?_ ?_
  · exact fun _ st' ⟨_, haside⟩ => h.aside st st' haside
  rintro (fault | hash) st' ⟨⟨-, hmade⟩, haside⟩
  · exact h.aside st st' haside
  · obtain ⟨-, hmakes⟩ := hmade hash rfl
    obtain ⟨w, hw, rfl⟩ := id haside
    refine Ensures.modify_bind (h.trans _ _ _ (h.aside st _ haside) (h.fill _ hash hnone hmakes))

theorem equalizeUnknownUser (h : store.StepsAlong R) (password : String) :
    Keeps R (Service.equalizeUnknownUser Serve.verify password : Serve σ AuthFault Unit) := by
  refine h.bind h.prepareDummyHash ?_
  rintro (fault | hash)
  · exact h.report _
  · exact h.bind (h.verify password hash) fun _ => h.pure _

theorem expiryAfter (h : store.StepsAlong R) (lifetime : Duration) :
    Keeps R (Service.expiryAfter lifetime : Serve σ AuthFault Instant) := by
  refine Keeps.get_bind fun st => ?_
  split
  · exact h.pure _
  · exact h.internal _

theorem newRefreshSecret (h : store.StepsAlong R) :
    Keeps R (Service.newRefreshSecret : Serve σ AuthFault String) := by
  intro st
  refine Ensures.get_bind ?_
  split
  · rename_i random _
    exact h.aside st _ ⟨{ st.world with random }, rfl, rfl⟩
  · exact h.internal _ st

theorem issue (h : store.StepsAlong R) (user : User) (secret : String) (expires : Instant) :
    Keeps R (s.issue user secret expires) := by
  refine h.bind (Keeps.get_bind fun st => ?_) fun _ => h.pure _
  dsimp only
  split
  · exact h.pure _
  · exact h.internal _

theorem authenticate (h : store.StepsAlong R) (user : User) (password : String) :
    Keeps R (Service.authenticate Serve.verify user password : Serve σ AuthFault Unit) := by
  refine h.bind (h.verify _ _) fun result => ?_
  split
  · exact h.pure _
  · exact h.bind (h.report _) fun _ => h.refuse _
  · exact h.bind (h.report _) fun _ => h.refuse _
  · exact h.internal _

/-! ## Operations -/

theorem register (h : s.store.StepsAlong R) (email password : String) :
    Keeps R (s.register email password) := by
  refine h.bind (h.requireEmail email) fun address => ?_
  split
  · refine h.bind (h.hash _) ?_
    rintro (fault | hash)
    · exact h.internal _
    refine Keeps.get_bind fun st => h.bind (h.draw _) fun user => ?_
    refine h.bind (h.bounded _ (h.createUser user)) fun answer => ?_
    split
    · exact h.bind (h.report _) fun _ => h.pure _
    · exact h.bind (h.report _) fun _ => h.refuse _
    · exact h.internal _
  · exact h.refuse _

theorem openSession (h : s.store.StepsAlong R) (user : User) (client : Client) :
    Keeps R (s.openSession user client) := by
  refine h.bind h.newRefreshSecret fun secret => ?_
  refine h.bind (h.expiryAfter _) fun expires => ?_
  refine h.bind (h.issue _ _ _) fun tokens => ?_
  refine h.bind (h.boundedSession _ (h.createSession _ _ _ _ _)) fun id => ?_
  exact h.bind (h.report _) fun _ => h.pure _

theorem login (h : s.store.StepsAlong R) (email password : String) (client : Client) :
    Keeps R (s.login email password client) := by
  refine h.bind (h.requireEmail email) fun address => ?_
  show Keeps _ (if password.isEmpty then _ else _)
  split
  · exact h.refuse _
  refine h.bind (h.bounded _ (h.findUserByEmail address)) ?_
  rintro (fault | _ | user)
  · exact h.internal _
  · refine h.bind (h.equalizeUnknownUser password) fun _ => ?_
    exact h.bind (h.report _) fun _ => h.refuse _
  · exact h.bind (h.authenticate user password) fun _ => h.openSession user client

theorem refresh (h : s.store.StepsAlong R) (raw : String) (client : Client) :
    Keeps R (s.refresh raw client) := by
  refine h.bind (h.requireArgument _ _) fun oldSecret => ?_
  refine h.bind h.newRefreshSecret fun newSecret => ?_
  refine h.bind (h.expiryAfter _) fun expires => ?_
  refine h.bind (h.boundedSession _ (h.rotateSession _ _ _ _)) fun rotated => ?_
  exact h.bind (h.report _) fun _ => h.issue _ _ _

theorem validate (h : s.store.StepsAlong R) (raw : String) : Keeps R (s.validate raw) := by
  refine h.bind (h.requireArgument _ _) fun token => Keeps.get_bind fun st => ?_
  split
  · exact h.pure _
  · exact Keeps.throw h.refl _
  · exact h.bind (h.report _) fun _ => h.refuse _

theorem logout (h : s.store.StepsAlong R) (raw : String) : Keeps R (s.logout raw) := by
  refine h.bind (h.requireArgument _ _) fun secret => ?_
  exact h.bind (h.boundedSession _ (h.revokeSession secret)) fun _ => h.report _

theorem logoutAll (h : s.store.StepsAlong R) (user : UserId) : Keeps R (s.logoutAll user) := by
  refine h.bind (h.boundedSession _ (h.revokeAllSessions user)) fun revoked => ?_
  exact h.bind (h.report _) fun _ => h.pure _

/-- **Every request keeps to a relation to which the steps keep.** -/
theorem serve (h : s.store.StepsAlong R) (q : Request) : Keeps R (s.serve q) := by
  cases q with
  | register email password => exact h.register email password
  | login email password client => exact h.login email password client
  | refresh raw client => exact h.refresh raw client
  | validate raw => exact h.validate raw
  | logout raw => exact h.logout raw
  | logoutAll user => exact h.logoutAll user

end Store.StepsAlong

/-! ## Requests -/

section Requests

variable {s : Service σ} {change : τ → σ → σ}

section Steps

variable {R : ServiceState σ → ServiceState σ → Prop}

/-- A request is served in circumstances that have to be met along the relation as well. -/
theorem Store.StepsAlong.visit (h : s.store.StepsAlong R) (hmet : ∀ o st, R st (st.meet change o))
    (o : Occasion τ) (st : ServiceState σ) : R st (s.visit change o st).2 :=
  h.trans _ _ _ (hmet o st) ((h.serve o.request).step (st.meet change o))

theorem Store.StepsAlong.run (h : s.store.StepsAlong R) (hmet : ∀ o st, R st (st.meet change o))
    (l : List (Occasion τ)) (st : ServiceState σ) : R st (s.run change l st).2 := by
  refine Service.run_induction (P := fun _ st' => R st st') ?_ l [] st (h.refl st)
  intro _ o st' hst
  exact h.trans _ _ _ hst (h.visit hmet o st')

end Steps

/-- **Every request moves the store along the relation**, if every call of the store does. -/
theorem Service.serve_moves (h : s.store.MovesAlong r) (q : Request) :
    Keeps (ServiceState.Moves r) (s.serve q) := h.steps.serve q

theorem Service.visit_moves (h : s.store.MovesAlong r) (hmet : ∀ c m, r m (change c m))
    (o : Occasion τ) (st : ServiceState σ) : st.Moves r (s.visit change o st).2 :=
  h.steps.visit (fun _ _ => ⟨rfl, hmet _ _⟩) o st

theorem Service.run_moves (h : s.store.MovesAlong r) (hmet : ∀ c m, r m (change c m))
    (l : List (Occasion τ)) (st : ServiceState σ) : st.Moves r (s.run change l st).2 :=
  h.steps.run (fun _ _ => ⟨rfl, hmet _ _⟩) l st

end Requests

/-! ## The pool

No request uses up a permit, and so a service whose requests come one after the other never waits for
one if it has one at the start. -/

/-- **An operation that leaves the pool as it was**, however it ends. -/
def KeepsPool (a : Serve σ ε α) : Prop :=
  ∀ st, Spares (·.pool) a st

namespace Service

variable {s : Service σ}

/-- **No request changes the pool**, whatever the circumstances. -/
theorem serve_keepsPool (q : Request) : KeepsPool (s.serve q) := by
  have hmoves := serve_moves s.store.movesAlong_true q
  exact hmoves.mono fun _ _ h => h.pool

theorem visit_pool (change : τ → σ → σ) (o : Occasion τ) (st : ServiceState σ) :
    (s.visit change o st).2.pool = st.pool :=
  (serve_keepsPool o.request (st.meet change o)).ending
    (P := fun _ (st' : ServiceState σ) => st'.pool = st.pool)

end Service

end SessionAuth
