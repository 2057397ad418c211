import SessionAuth.Proofs.Database.InStep
import SessionAuth.Proofs.Service.Addresses
import SessionAuth.Proofs.Service.InStep
import SessionAuth.Proofs.Store.Validation

/-!
What a password has influence on.

A password decides whether a login is accepted. Beyond that it shows in one place, the hash of a user who
is registered. The proof is about two runs from one state that differ in the password alone. Two logins
that are rejected are the same run, from the first event to the last call of the store. Two registrations
are the same up to the hash; from there on they are in step.
-/

set_option autoImplicit false

namespace SessionAuth

variable {σ ε : Type} {s : Service σ} {st : ServiceState σ} {p q raw : String}

/-! ## Passwords that are rejected -/

/-- A hash that is not well-formed rejects every password in one way, and every other hash rejects them in
another. -/
theorem Hasher.verify_rejected {encoded : String} (hp : verify p encoded ≠ .ok ())
    (hq : verify q encoded ≠ .ok ()) : verify p encoded = verify q encoded := by
  unfold verify at *
  generalize parse? encoded = parsed at *
  cases parsed with
  | none => rfl
  | some parsed =>
    dsimp only at *
    rw [if_neg fun h => hp (if_pos h), if_neg fun h => hq (if_pos h)]

/-- A check depends on the password only as far as what comes of it. -/
theorem Serve.verify_congr {encoded : String}
    (h : Hasher.verify p encoded = Hasher.verify q encoded) :
    (Serve.verify p encoded : Serve σ ε (Except PasswordFault Unit)) = Serve.verify q encoded := by
  funext st
  unfold Serve.verify HashingPool.verify?
  rw [h]

/-- Where the address is unknown, it does not matter what comes of the check. -/
theorem Service.equalizeUnknownUser_congr :
    (equalizeUnknownUser Serve.verify p : Serve σ AuthFault Unit)
      = equalizeUnknownUser Serve.verify q := by
  have hverify : ∀ hash : String,
      (Serve.verify p hash >>= fun _ => pure () : Serve σ AuthFault Unit)
        = Serve.verify q hash >>= fun _ => pure () := by
    intro hash
    funext st
    rw [bind_apply, bind_apply]
    unfold Serve.verify HashingPool.verify?
    cases st.pool.acquire? with
    | none => rfl
    | some busy => rfl
  unfold equalizeUnknownUser
  refine congrArg (prepareDummyHash >>= ·) (funext fun prepared => ?_)
  cases prepared with
  | ok hash => exact hverify hash
  | error fault => rfl

theorem Service.authenticate_congr {user : User}
    (hp : Hasher.verify p user.passwordHash ≠ .ok ())
    (hq : Hasher.verify q user.passwordHash ≠ .ok ()) :
    (authenticate Serve.verify user p : Serve σ AuthFault Unit)
      = authenticate Serve.verify user q := by
  unfold authenticate
  rw [Serve.verify_congr (Hasher.verify_rejected hp hq)]

/-- **A password that lets in**: the store finds a user with the address, whose hash is one of the
password. -/
def Service.Authenticates (s : Service σ) (raw password : String) (w : World σ) : Prop :=
  ∃ email user, Email.parse raw = .ok email
    ∧ (s.store.findUserByEmail email w).1 = .ok (some user)
    ∧ Hasher.verify password user.passwordHash = .ok ()

/-- What the store answers a login. -/
theorem Service.lookup_ensures {email : Email} :
    Ensures (s.bounded "find_user_by_email" (s.store.findUserByEmail email)) st
      (fun r _ => ∀ found, r = .ok found →
        (s.store.findUserByEmail email st.world).1 = .ok found) (fun _ _ => True) := by
  refine (bounded_ensures Ensures.itself).mono ?_ fun _ _ _ => trivial
  rintro r st' ⟨w, rfl, hr⟩ found rfl
  exact congrArg Prod.fst hr

/-- **Two logins that are rejected are the same.** -/
theorem Service.login_congr {client : Client} (hp : p.isEmpty = false) (hq : q.isEmpty = false)
    (hp' : ¬s.Authenticates raw p st.world) (hq' : ¬s.Authenticates raw q st.world) :
    s.login raw p client st = s.login raw q client st := by
  refine Agree.eq (Agree.bind_self requireEmail_ensures (fun _ _ _ => rfl) ?_)
  rintro email _ ⟨rfl, hemail⟩
  rw [hp, hq]
  refine Agree.bind_self lookup_ensures (fun _ _ _ => rfl) fun r t hr => ?_
  -- the store has answered; what follows is decided by whom it has found
  rcases r with fault | _ | user
  · exact Agree.self rfl
  · dsimp only
    rw [equalizeUnknownUser_congr (p := p) (q := q)]
    exact Agree.self rfl
  · have hfound := hr _ rfl
    dsimp only
    rw [authenticate_congr (fun h => hp' ⟨email, user, hemail, hfound, h⟩)
      (fun h => hq' ⟨email, user, hemail, hfound, h⟩)]
    exact Agree.self rfl

/-- A password that does not let in is rejected, or the login fails for another reason. -/
theorem Service.login_fails (client : Client) (hp : ¬s.Authenticates raw p st.world) :
    Ensures (s.login raw p client) st (fun _ _ => False) (fun _ _ => True) := by
  refine Ensures.bind_mono requireEmail_ensures (fun _ _ _ => trivial) ?_
  rintro email _ ⟨rfl, hemail⟩
  by_cases hempty : p.isEmpty = true
  · rw [hempty]
    trivial
  rw [if_neg hempty]
  refine Ensures.bind lookup_ensures fun r t hr => ?_
  rcases r with fault | _ | user
  · exact internal_ensures fun _ _ => trivial
  · refine Ensures.bind (equalizeUnknownUser_quiet.mono (fun _ _ _ => trivial) fun _ _ _ => trivial)
      fun _ _ _ => Serve.report_bind fun _ _ => trivial
  · refine Ensures.bind_mono authenticate_ensures (fun _ _ _ => trivial) ?_
    rintro _ _ ⟨-, hverify⟩
    exact absurd ⟨email, user, hemail, hr _ rfl, hverify⟩ hp

/-! ## Users with another hash -/

/-- **The same user, but for the hash of the password.** -/
def User.SameButHash (u u' : User) : Prop := ∃ hash, u' = { u with passwordHash := hash }

/-- The same row, but for the hash of the password. -/
def Database.UserRow.SameButHash (row row' : Database.UserRow) : Prop :=
  ∃ hash, row' = { row with passwordHash := hash }

theorem User.SameButHash.row {u u' : User} (h : u.SameButHash u') :
    Database.UserRow.SameButHash (.ofUser u) (.ofUser u') := by
  obtain ⟨hash, rfl⟩ := h
  exact ⟨hash, rfl⟩

/-! ### In the tables -/

namespace Database

/-- **The same tables, but for the hash of a new user.** -/
structure SameButNewHash (before : List Nat) (t t' : Tables) : Prop where
  users : OneNew UserRow.SameButHash before t.users t'.users
  sessions : t.sessions = t'.sessions
  checksReferences : t.checksReferences = t'.checksReferences

theorem SameButNewHash.refl {before : List Nat} {t : Tables} (h : t.users.length ∈ before) :
    SameButNewHash before t t := ⟨.same h, rfl, rfl⟩

/-- How many users there may be. -/
def userCounts (db : Database) : List Nat := db.versions.map (·.users.length)

/-- A row is inserted or refused for its identifier and its address. -/
theorem insertUser_alike {before : List Nat} {t : Tables} {row row' : UserRow}
    (h : row.SameButHash row') (hbefore : t.users.length ∈ before) (now : Instant) :
    RunsAlike (SameButNewHash before) (t.run now (.insertUser row))
      (t.run now (.insertUser row')) := by
  obtain ⟨hash, rfl⟩ := h
  show RunsAlike _ ((t.insertUser row).map _)
    ((t.insertUser { row with passwordHash := hash }).map _)
  unfold Tables.insertUser
  split
  · exact .error
  split
  · exact .error
  · exact .ok ⟨.new hbefore ⟨hash, rfl⟩, rfl, rfl⟩

end Database

/-- A user is added or refused alike, whatever the hash. -/
theorem Relational.createUser_inStep {w : World Database} {u u' : User} (h : u.SameButHash u') :
    Agree (World.InStep (Database.InStep (Database.SameButNewHash w.store.userCounts)))
      User.SameButHash Eq (createUser u) (createUser u') w w := by
  have hinsert : Agree (World.InStep (Database.InStep (Database.SameButNewHash w.store.userCounts)))
      Eq Eq (Database.execute (.insertUser (.ofUser u))) (Database.execute (.insertUser (.ofUser u')))
      w w := by
    refine Database.execute_inStep (T := fun t t' => t = t' ∧ t.users.length ∈ w.store.userCounts)
      rfl rfl rfl ?_ ?_ ?_
    · rintro t _ ⟨rfl, hbefore⟩
      exact .refl hbefore
    · rintro t _ now ⟨rfl, hbefore⟩
      exact Database.insertUser_alike h.row hbefore now
    · exact .refl (.refl fun _ ht => ⟨rfl, List.mem_map_of_mem ht⟩)
  have haddress : u.email = u'.email := by
    obtain ⟨hash, rfl⟩ := h
    rfl
  refine (Database.attempt_agree hinsert).bind ?_
  rintro r _ v v' rfl hv
  rcases r with (fault | _ | _ | _ | _) | o
  · dsimp only
    rw [haddress]
    exact .ite (fun _ => .throw rfl hv) fun _ => .throw rfl hv
  · exact .throw rfl hv
  · exact .throw rfl hv
  · exact .throw rfl hv
  · exact .throw rfl hv
  · exact .pure h hv

/-! ### In memory -/

namespace MemoryStore

/-- **The same store, but for the hash of a new user.** -/
structure SameButNewHash (before : List Nat) (m m' : MemoryStore) : Prop where
  users : OneNew User.SameButHash before m.users m'.users
  sessions : m.sessions = m'.sessions
  calls : m.calls = m'.calls
  misbehaviours : m.misbehaviours = m'.misbehaviours

/-- How many users there are. -/
def userCounts (m : MemoryStore) : List Nat := [m.users.length]

theorem SameButNewHash.refl {before : List Nat} {m : MemoryStore} (h : m.users.length ∈ before) :
    SameButNewHash before m m := ⟨.same h, rfl, rfl, rfl⟩

theorem createUser_inStep {w : World MemoryStore} {u u' : User} (h : u.SameButHash u') :
    Agree (World.InStep (SameButNewHash w.store.userCounts)) User.SameButHash Eq
      (store.createUser u) (store.createUser u') w w := by
  obtain ⟨hash, rfl⟩ := h
  have hcount : w.store.users.length ∈ w.store.userCounts := List.mem_singleton_self _
  have hnoted : World.InStep (SameButNewHash w.store.userCounts)
      (noted (.createUser u.id u.email) w) (noted (.createUser u.id u.email) w) :=
    .refl (.refl hcount)
  refine answering_inStep hnoted ?_
  refine .get_bind (.ite (fun _ => .throw rfl hnoted) fun _ => ?_)
  exact .modify_bind (.pure ⟨hash, rfl⟩
    (hnoted.withStore ⟨.new hcount ⟨hash, rfl⟩, rfl, rfl, rfl⟩))

end MemoryStore

/-! ## Registrations -/

section Registrations

variable {R : σ → σ → Prop}

/-- Two runs in one state, with the store that was there at the start. -/
def AtStart (m : σ) (st st' : ServiceState σ) : Prop := st = st' ∧ st.world.store = m

theorem AtStart.inStep {m : σ} {st st' : ServiceState σ} (hrefl : R m m)
    (h : AtStart m st st') : ServiceState.InStep R st st' := by
  obtain ⟨rfl, rfl⟩ := h
  exact .refl hrefl

/-- Both passwords are hashed, or neither is. -/
theorem Serve.hash_alike {m : σ} (hp : p.isEmpty = false) (hq : q.isEmpty = false)
    (hst : st.world.store = m) :
    Agree (AtStart m) (ExceptAlike fun _ _ => True) Eq
      (Serve.hash p : Serve σ ε (Except PasswordFault String)) (Serve.hash q) st st := by
  unfold Agree Serve.hash HashingPool.hash? Hasher.hash?
  rw [hp, hq]
  cases st.pool.acquire? with
  | none => exact .failure rfl ⟨rfl, hst⟩
  | some busy =>
    dsimp only
    cases st.world.random.draw? Hasher.saltLength with
    | none => exact .value .error ⟨rfl, hst⟩
    | some drawn => exact .value (.ok trivial) ⟨rfl, hst⟩

/-- The user who is registered is the same, but for the hash. -/
theorem Serve.register?_alike {m : σ} {email : Email} {hash hash' : String} {now : Instant}
    (hst : st.world.store = m) :
    Agree (AtStart m) User.SameButHash Eq
      (Serve.act (Act.draw (User.register? email hash now)) : Serve σ ε User)
      (Serve.act (Act.draw (User.register? email hash' now))) st st := by
  have hdraw : Agree (fun w w' : World σ => w = w' ∧ w.store = m) User.SameButHash Eq
      (Act.draw (User.register? email hash now) : Act σ ε User)
      (Act.draw (User.register? email hash' now)) st.world st.world := by
    refine .get_bind ?_
    unfold User.register?
    cases Uuid.random? st.world.random with
    | none => exact .throw rfl ⟨rfl, hst⟩
    | some drawn => exact .modify_bind (.pure ⟨hash', rfl⟩ ⟨rfl, hst⟩)
  unfold Agree Serve.act at *
  generalize Act.draw (User.register? email hash now) st.world = r at hdraw
  generalize Act.draw (User.register? email hash' now) st.world = r' at hdraw
  cases hdraw with
  | value hx hw => exact .value hx ⟨by rw [hw.1], hw.2⟩
  | failure he hw => exact .failure he ⟨by rw [hw.1], hw.2⟩

/-- **Two registrations end alike** with passwords that are long enough, if the store adds users alike
whatever their hash: with the same user but for the hash, or with the same fault. -/
theorem Service.register_inStep (hrefl : R st.world.store st.world.store) (hp : 12 ≤ p.length) (hq : 12 ≤ q.length)
    (hcreate : ∀ (w : World σ) (u u' : User), w.store = st.world.store → u.SameButHash u' →
      Agree (World.InStep R) User.SameButHash Eq (s.store.createUser u) (s.store.createUser u')
        w w) :
    Agree (ServiceState.InStep R) User.SameButHash Eq (s.register raw p) (s.register raw q)
      st st := by
  have hweak : ∀ t t', AtStart st.world.store t t' → ServiceState.InStep R t t' :=
    fun _ _ => AtStart.inStep hrefl
  refine Agree.bind_self requireEmail_ensures
    (fun _ t ht => hweak t t ⟨rfl, ht.store⟩) ?_
  rintro email _ ⟨rfl, -⟩
  rw [Password.ofText?_of_long hp, Password.ofText?_of_long hq]
  refine (Serve.hash_alike (Password.isEmpty_of_long hp) (Password.isEmpty_of_long hq)
    rfl).bind_mono hweak ?_
  rintro _ _ t t' hhash ht
  cases hhash with
  | error => exact (hweak _ _ ht).internal _
  | ok _ =>
    obtain ⟨rfl, hstore⟩ := ht
    refine .get_bind ((Serve.register?_alike hstore).bind_mono hweak ?_)
    rintro u u' v _ hu ⟨rfl, hv⟩
    refine (bounded_inStep (hcreate _ u u' hv hu)).bind ?_
    rintro _ _ v v' hadded hv
    cases hadded with
    | ok huser =>
      obtain ⟨hash, rfl⟩ := huser
      exact hv.report_bind fun _ _ hx => .pure ⟨hash, rfl⟩ hx
    | @error fault =>
      cases fault with
      | emailTaken _ => exact hv.report_bind fun _ _ hx => .throw rfl hx
      | _ => exact hv.internal _

end Registrations

/-! ## Both -/

/-- **Passwords have influence on nothing but acceptance.**

* Two logins with passwords that are not empty, neither of which lets in: they fail with the same error
  and end in the same state, and so with the same events and calls of the store. This goes for every store.
* Two registrations with passwords of at least twelve characters, in the tables and in memory: they end with
  the same user but for the hash, or with the same fault. The events are the same, and so is what is stored,
  but for the hash of a user who is new. -/
theorem passwords_only_accept :
    (∀ (σ : Type) (s : Service σ) (st : ServiceState σ) (raw p q : String) (client : Client),
      p.isEmpty = false → q.isEmpty = false → ¬s.Authenticates raw p st.world →
      ¬s.Authenticates raw q st.world →
        s.login raw p client st = s.login raw q client st
          ∧ ∃ e, (s.login raw p client st).1 = .error e)
    ∧ (∀ (s : TableService) (st : ServiceState Database) (raw p q : String),
      12 ≤ p.length → 12 ≤ q.length →
        Agree (ServiceState.InStep (Database.InStep
            (Database.SameButNewHash st.world.store.userCounts)))
          User.SameButHash Eq (s.service.register raw p) (s.service.register raw q) st st)
    ∧ ∀ (signer : TokenSigner) (settings : AuthSettings) (st : ServiceState MemoryStore)
      (raw p q : String), 12 ≤ p.length → 12 ≤ q.length →
        Agree (ServiceState.InStep (MemoryStore.SameButNewHash st.world.store.userCounts))
          User.SameButHash Eq ((memoryService signer settings).register raw p)
          ((memoryService signer settings).register raw q) st st := by
  refine ⟨?_, ?_, ?_⟩
  · intro σ s st raw p q client hp hq hp' hq'
    refine ⟨Service.login_congr hp hq hp' hq', ?_⟩
    have hfails := Service.login_fails client hp'
    unfold Ensures at hfails
    rcases hlogin : s.login raw p client st with ⟨e | x, t⟩ <;> rw [hlogin] at hfails
    · exact ⟨e, rfl⟩
    · exact hfails.elim
  · intro s st raw p q hp hq
    refine Service.register_inStep (.refl fun _ ht => .refl (List.mem_map_of_mem ht)) hp hq ?_
    intro w u u' hw hu
    exact hw ▸ Relational.createUser_inStep hu
  · intro signer settings st raw p q hp hq
    refine Service.register_inStep (.refl (List.mem_singleton_self _)) hp hq ?_
    intro w u u' hw hu
    exact hw ▸ MemoryStore.createUser_inStep hu

/-! ### A household and two passwords -/

/-- A service at the tables of a household, whose user has a hash that is not well-formed. -/
def tended : ServiceState Database := ⟨Relational.roomy, lightPool, none⟩

theorem tended_rejects (password : String) :
    ¬loneService.service.Authenticates "a@example.com" password tended.world := by
  rintro ⟨email, user, hemail, hfound, hverify⟩
  have hparsed : Email.parse "a@example.com" = .ok ⟨"a@example.com"⟩ := by
    decide +kernel
  obtain rfl := Except.ok.inj (hemail.symm.trans hparsed)
  have htenant : (Relational.findUserByEmail ⟨"a@example.com"⟩ Relational.roomy).1
      = .ok (some Relational.tenant) := by
    decide +kernel
  obtain rfl := Option.some.inj (Except.ok.inj (hfound.symm.trans htenant))
  have hmalformed : Hasher.parse? Relational.tenant.passwordHash = none := by
    decide +kernel
  rw [Hasher.verify, hmalformed] at hverify
  cases hverify

theorem passwords_only_accept_tended :
    ("a".isEmpty = false ∧ "b".isEmpty = false
        ∧ ¬loneService.service.Authenticates "a@example.com" "a" tended.world
        ∧ ¬loneService.service.Authenticates "a@example.com" "b" tended.world
        ∧ loneService.service.login "a@example.com" "a" ⟨none, none⟩ tended
          = loneService.service.login "a@example.com" "b" ⟨none, none⟩ tended)
      ∧ (12 ≤ "correct horse".length ∧ 12 ≤ "battery staple".length)
      ∧ Agree (ServiceState.InStep (Database.InStep (Database.SameButNewHash [1])))
          User.SameButHash Eq (loneService.service.register "b@example.com" "correct horse")
          (loneService.service.register "b@example.com" "battery staple") tended tended
      ∧ Agree (ServiceState.InStep (MemoryStore.SameButNewHash [0])) User.SameButHash Eq
          ((memoryService ⟨[], "issuer"⟩ {}).register "b@example.com" "correct horse")
          ((memoryService ⟨[], "issuer"⟩ {}).register "b@example.com" "battery staple")
          freshMemory freshMemory := by
  have hp : 12 ≤ "correct horse".length := by decide
  have hq : 12 ≤ "battery staple".length := by decide
  refine ⟨⟨rfl, rfl, tended_rejects _, tended_rejects _, ?_⟩, ⟨hp, hq⟩, ?_, ?_⟩
  · exact (passwords_only_accept.1 _ _ _ _ _ _ _ rfl rfl (tended_rejects _) (tended_rejects _)).1
  · have hone : tended.world.store.userCounts = [1] := by
      show (Relational.household _).store.userCounts = [1]
      rw [Database.userCounts, Database.versions, Relational.household_tables,
        (Relational.household_idle _).1]
      rfl
    exact hone ▸ passwords_only_accept.2.1 loneService tended _ _ _ hp hq
  · exact passwords_only_accept.2.2 _ _ freshMemory _ _ _ hp hq

end SessionAuth
