import SessionAuth.Proofs.Http.Respond
import SessionAuth.Proofs.Service.Login
import SessionAuth.Proofs.Service.Moves
import SessionAuth.Proofs.Service.Permit

/-!
Logins that fail, seen from outside.

A login can fail in three ways behind the checks of its arguments: nobody has the address, the password
is not the one that was hashed, or what is stored is no hash. The work that is done differs. For an
unknown address a hash may have to be made first, and that may fail as well. What is sent back does not
differ, and nothing is written (`failed_logins_look_alike`).

The statement is one about two runs, and it comes down to one: the response to a failed login depends on
nothing but whether the pool has a permit (`handle_failing`).
-/

set_option autoImplicit false

namespace SessionAuth

variable {σ ε α : Type} {st : ServiceState σ}

/-! ## A login that fails -/

namespace Service

variable {s : Service σ} {password : String} {user : User} {client : Client}

/-- What a login fails with that is not let in. -/
def rejection (pool : HashingPool) : Failure AuthFault :=
  if pool.free = 0 then .stalled else .refused .invalidCredentials

/-- A password that is not the one of the user, and a hash that is none, are refused alike. -/
theorem authenticate_rejected (hwrong : Hasher.verify password user.passwordHash ≠ .ok ()) :
    Ensures (authenticate Serve.verify user password : Serve σ AuthFault Unit) st (fun _ _ => False)
      (fun e st' => e = rejection st.pool ∧ Quiet st st') := by
  have hrefused : ∀ {st' : ServiceState σ} {e : Event}, st.pool.free ≠ 0 → Quiet st st' →
      Ensures (do Serve.report e; Serve.refuse .invalidCredentials : Serve σ AuthFault Unit) st'
        (fun _ _ => False) (fun e st' => e = rejection st.pool ∧ Quiet st st') := by
    intro st' e hfree hquiet
    refine Serve.report_bind fun _ h => ⟨?_, hquiet.trans h⟩
    rw [rejection, if_neg hfree]
  refine Ensures.bind_mono Serve.verify_needsPermit ?_ ?_
  · rintro e st' ⟨hfree, rfl, hquiet⟩
    rw [rejection, if_pos hfree]
    exact ⟨rfl, hquiet⟩
  · rintro r st' ⟨hfree, rfl, -, hquiet⟩
    cases hverify : Hasher.verify password user.passwordHash with
    | ok _ => exact absurd hverify hwrong
    | error fault =>
      obtain rfl | rfl := Hasher.verify_error hverify
      · exact hrefused hfree hquiet
      · exact hrefused hfree hquiet

/-- **A login is refused in one way**, whoever has the address: where the store answers, and whoever it
finds has another password, or none that could be checked. -/
theorem login_rejected {raw : String} {email : Email} {K : σ → Prop}
    (hemail : Email.parse raw = .ok email) (hnonempty : password.isEmpty = false)
    (hfind : Ensures (s.store.findUserByEmail email) st.world
      (fun r w => (∀ user, r = some user → Hasher.verify password user.passwordHash ≠ .ok ())
        ∧ K w.store) (fun _ _ => False)) :
    Ensures (s.login raw password client) st (fun _ _ => False)
      (fun e st' => e = rejection st.pool ∧ K st'.world.store) := by
  refine Ensures.bind (requireEmail_accepts hemail) ?_
  rintro email st₀ ⟨rfl, rfl⟩
  show Ensures (if password.isEmpty then _ else _) _ _ _
  rw [hnonempty, if_neg Bool.false_ne_true]
  refine Ensures.bind_mono (bounded_ensures hfind) (fun _ _ ⟨_, _, h, _⟩ => h.elim) ?_
  -- a store that answers finds nobody, or somebody with another password
  rintro (fault | (_ | user)) _ ⟨w, rfl, hr⟩
  · exact hr.elim
  · refine Ensures.bind_mono equalizeUnknownUser_needsPermit ?_ ?_
    · rintro e st' ⟨hfree, rfl, hquiet⟩
      rw [hquiet.store, rejection, if_pos hfree]
      exact ⟨rfl, hr.2⟩
    · rintro _ st' ⟨hfree, -, -, hquiet⟩
      refine Serve.report_bind fun st₂ h => ?_
      show _ = rejection st₀.pool ∧ K st₂.world.store
      rw [(hquiet.trans h).store, rejection, if_neg hfree]
      exact ⟨rfl, hr.2⟩
  · refine Ensures.bind_mono (authenticate_rejected (hr.1 user rfl)) ?_ fun _ _ h => h.elim
    rintro e st' ⟨rfl, hquiet⟩
    rw [hquiet.store]
    exact ⟨rfl, hr.2⟩

end Service

/-- **A store that answers** when an address is looked up: with the account there, and without a change
to what is stored. -/
def Store.LooksUp (store : Store σ) (ready : σ → Prop) (accounts : σ → List Account)
    (same : σ → σ → Prop) : Prop :=
  ∀ {w : World σ} {email : Email}, ready w.store → Email.parse email.text = .ok email →
    Ensures (store.findUserByEmail email) w
      (fun found w' => found.map .ofUser = accountAt (accounts w.store) email.text
        ∧ same w.store w'.store) (fun _ _ => False)

/-! ## The response -/

namespace Http

variable {api : Api σ} {r : Request}

/-- **A request for a login that fails**, as far as the accounts go: it is complete, and the password is
not the one of any account with the address, be it that there is none. -/
structure Request.FailsLogin (accounts : List Account) (r : Request) : Prop where
  method : r.method = "POST"
  path : r.path = "/api/auth/login"
  body : ∃ credentials email, readBody (Credentials.record "LoginRequest") r = .ok credentials
    ∧ Email.parse credentials.email = .ok email ∧ credentials.password.isEmpty = false
    ∧ ∀ a ∈ accounts, a.address = email.text →
        Hasher.verify credentials.password a.passwordHash ≠ .ok ()

/-- Such a request is answered as the service answers the login. -/
theorem handle_login {credentials : Credentials} (hmethod : r.method = "POST")
    (hpath : r.path = "/api/auth/login")
    (hbody : readBody (Credentials.record "LoginRequest") r = .ok credentials) :
    handle api r = respond 200 tokenData
      (api.service.login credentials.email credentials.password (clientOf r)) := by
  have hroute : Route.paths.lookup r.path = some .login := by
    rw [hpath]
    decide
  rw [handle_post hmethod hroute (by decide)]
  exact withBody_read hbody

/-- What is sent back to a login that fails, if anything. -/
def refusal (pool : HashingPool) : Except (Failure Empty) Response :=
  if pool.free = 0 then .error .stalled else .ok (ofFault .invalidCredentials)

theorem respond_rejected {a : Serve σ AuthFault α} {status : Nat} {data : α → Json.Value}
    {K : σ → Prop} (h : Ensures a st (fun _ _ => False)
      (fun e st' => e = Service.rejection st.pool ∧ K st'.world.store)) :
    (respond status data a st).1 = refusal st.pool
      ∧ K (respond status data a st).2.world.store := by
  refine Ensures.ending (P := fun x (st' : ServiceState σ) => x = refusal st.pool ∧ K st'.world.store)
    (respond_ensures (h.mono (fun _ _ h => h.elim) ?_))
  rintro e st' ⟨rfl, hK⟩
  rw [refusal, Service.rejection]
  by_cases hfree : st.pool.free = 0
  · rw [if_pos hfree, if_pos hfree]
    exact ⟨rfl, hK⟩
  · rw [if_neg hfree, if_neg hfree]
    exact ⟨rfl, hK⟩

/-- **The response to a failed login** tells nothing about the accounts, and nothing is written. -/
theorem handle_failing {ready : σ → Prop} {accounts : σ → List Account} {same : σ → σ → Prop}
    (hstore : api.service.store.LooksUp ready accounts same) (hready : ready st.world.store)
    (hr : r.FailsLogin (accounts st.world.store)) :
    (handle api r st).1 = refusal st.pool
      ∧ same st.world.store (handle api r st).2.world.store := by
  obtain ⟨credentials, email, hbody, hemail, hnonempty, hwrong⟩ := hr.body
  rw [handle_login hr.method hr.path hbody]
  refine respond_rejected (Service.login_rejected hemail hnonempty ?_)
  refine (hstore hready (Email.parse_text hemail)).mono ?_ fun _ _ h => h
  rintro found w ⟨hfound, hsame⟩
  refine ⟨?_, hsame⟩
  rintro user rfl
  -- whoever is found has an account with the address, and the password is the one of none of these
  have ha : accountAt (accounts st.world.store) email.text = some (.ofUser user) := hfound.symm
  have hmem := List.mem_of_find?_eq_some ha
  exact hwrong (.ofUser user) hmem (Database.eq_of_find? ha)

/-- **Failed logins look alike**: any two of them, each in a state of its own, as long as there is a permit
in both states or in neither. The random source, the hash for unknown addresses and all that is stored
may differ. -/
def Api.HidesAccounts (api : Api σ) (ready : σ → Prop) (accounts : σ → List Account)
    (same : σ → σ → Prop) : Prop :=
  ∀ (st st' : ServiceState σ) (r r' : Request), ready st.world.store → ready st'.world.store →
    (st.pool.free = 0 ↔ st'.pool.free = 0) → r.FailsLogin (accounts st.world.store) →
    r'.FailsLogin (accounts st'.world.store) →
      (handle api r st).1 = (handle api r' st').1
      ∧ (st.pool.free ≠ 0 → (handle api r st).1 = .ok (ofFault .invalidCredentials))
      ∧ same st.world.store (handle api r st).2.world.store
      ∧ same st'.world.store (handle api r' st').2.world.store

theorem Api.hidesAccounts {ready : σ → Prop} {accounts : σ → List Account} {same : σ → σ → Prop}
    (hstore : api.service.store.LooksUp ready accounts same) :
    api.HidesAccounts ready accounts same := by
  intro st st' r r' hready hready' hpool hr hr'
  obtain ⟨hresponse, hsame⟩ := handle_failing hstore hready hr
  obtain ⟨hresponse', hsame'⟩ := handle_failing hstore hready' hr'
  refine ⟨?_, fun hfree => ?_, hsame, hsame'⟩
  · rw [hresponse, hresponse', refusal, refusal, if_congr hpool rfl rfl]
  · rw [hresponse, refusal, if_neg hfree]

end Http

/-! ## Both stores -/

/-- In a fair database, every address can be looked up: the row with an address in normal form can be
read. -/
theorem Relational.looksUp (lockTimeout : Duration) :
    (store lockTimeout).LooksUp (fun db => db.atStart = none ∧ db.Fair) Database.accounts
      fun db db' => db'.settled = db.settled := by
  rintro w email ⟨hidle, hfair⟩ hemail
  have hready : w.store.Ready := ⟨hidle, hfair.faithful⟩
  refine ((findUser_fair rfl hfair rfl).and (findUserByEmail_accounts hready hemail)).mono ?_ ?_
  · rintro found w' ⟨⟨hin, ht, -⟩, -, -, haccount⟩
    refine ⟨haccount, ?_⟩
    show w'.store.settled = w.store.settled
    rw [hin.settled hready, ht, hready.settled]
  · -- the only fault left is a row that cannot be read, and its address would have to be flawed
    rintro _ _ ⟨⟨row, flaw, hfind, hload, -⟩, -⟩
    have hrow : row.email = email.text := Database.eq_of_find? hfind
    rw [loadRow, hrow, hemail] at hload
    cases hload

theorem MemoryStore.looksUp :
    store.LooksUp (fun m => m.misbehaviours.findUserByEmail = none) accounts
      fun m m' => m'.users = m.users ∧ m'.sessions = m.sessions := by
  intro _ _ hcalm _
  exact answering_calm hcalm (Act.store_bind ⟨(accountAt_map _ _).symm, rfl, rfl⟩)

/-- **Failed logins cannot be told from each other**, on either store: whoever sees the responses does not
learn whether an address has an account, nor whether its hash is in order. Neither request changes
what is stored. -/
theorem failed_logins_look_alike :
    (∀ (s : TableService) (ping : Option (Act Database String Unit)),
      Http.Api.HidesAccounts ⟨s.service, ping⟩ (fun db => db.atStart = none ∧ db.Fair)
        Database.accounts fun db db' => db'.settled = db.settled)
    ∧ ∀ (signer : TokenSigner) (settings : AuthSettings)
        (ping : Option (Act MemoryStore String Unit)),
      Http.Api.HidesAccounts ⟨memoryService signer settings, ping⟩
        (fun m => m.misbehaviours.findUserByEmail = none) MemoryStore.accounts
        fun m m' => m'.users = m.users ∧ m'.sessions = m.sessions := by
  refine ⟨fun s ping => ?_, fun signer settings ping => ?_⟩
  · exact Http.Api.hidesAccounts (Relational.looksUp s.lockTimeout)
  · exact Http.Api.hidesAccounts MemoryStore.looksUp

/-! ### An account whose hash is spoilt -/

/-- A user whose stored hash is none. -/
def spoilt : User where
  id := ⟨.ofNat 2⟩
  email := ⟨"ada@example.com"⟩
  passwordHash := "plain text"
  emailVerifiedAt := none
  createdAt := .epoch
  updatedAt := .epoch

/-- Tables in which there is nobody else. -/
def spoiltTables : Database := { tables := { users := [.ofUser spoilt] } }

/-- A store in memory in which there is nobody else. -/
def spoiltMemory : MemoryStore := { users := [spoilt] }

/-- A service in the middle of its work, whose random source has run dry. -/
def midway (store : σ) : ServiceState σ where
  world := { now := .ofSeconds 9, random := ⟨.ofSeed 1, some 0⟩, events := [], store }
  pool := ⟨⟨.standard, HashCost.flaw?_standard⟩, 1⟩
  dummyHash := none

/-- The form of a login with an address. -/
def loginOf (address : String) : Http.Request where
  method := "POST"
  target := "/api/auth/login?again"
  headers := [("Content-Type", Utf8.ofString "application/json")]
  body := "\x7b\"email\": \"" ++ address ++
    "\", \"password\": \"dummy-password-for-timing-equalization\"\x7d"
  peer := none

theorem loginOf_fails {address : String} (email : Email)
    (hbody : Http.readBody (Http.Credentials.record "LoginRequest") (loginOf address)
      = .ok ⟨address, Service.dummyPassword⟩) (hemail : Email.parse address = .ok email) :
    (loginOf address).FailsLogin [.ofUser spoilt] := by
  have hpath : Http.Request.path ⟨"POST", "/api/auth/login?again", [], "", none⟩
      = "/api/auth/login" := by decide
  have hnonempty : Service.dummyPassword.isEmpty = false := by decide
  have hspoilt : Hasher.parse? spoilt.passwordHash = none := by decide +kernel
  refine ⟨rfl, hpath, _, email, hbody, hemail, hnonempty, ?_⟩
  intro a ha _
  rw [List.mem_singleton.mp ha]
  show Hasher.verify _ spoilt.passwordHash ≠ _
  rw [Hasher.verify, hspoilt]
  intro hok
  cases hok

theorem failed_logins_look_alike_spoilt :
    ((loginOf "ada@example.com").FailsLogin [.ofUser spoilt]
      ∧ (loginOf "bob@example.com").FailsLogin [.ofUser spoilt])
    ∧ ((Http.handle ⟨loneService.service, none⟩ (loginOf "ada@example.com") (midway spoiltTables)).1
        = (Http.handle ⟨loneService.service, none⟩ (loginOf "bob@example.com")
            (midway spoiltTables)).1
      ∧ (Http.handle ⟨loneService.service, none⟩ (loginOf "ada@example.com")
          (midway spoiltTables)).1 = .ok (Http.ofFault .invalidCredentials))
    ∧ (Http.handle ⟨memoryService ⟨[], "issuer"⟩ {}, none⟩ (loginOf "ada@example.com")
        (midway spoiltMemory)).1
      = (Http.handle ⟨memoryService ⟨[], "issuer"⟩ {}, none⟩ (loginOf "bob@example.com")
          (midway spoiltMemory)).1 := by
  have hada : (loginOf "ada@example.com").FailsLogin [.ofUser spoilt] :=
    loginOf_fails ⟨"ada@example.com"⟩ (by decide +kernel) (by decide +kernel)
  have hbob : (loginOf "bob@example.com").FailsLogin [.ofUser spoilt] :=
    loginOf_fails ⟨"bob@example.com"⟩ (by decide +kernel) (by decide +kernel)
  have hanswers : spoiltTables.atStart = none ∧ spoiltTables.Fair := ⟨rfl, rfl, rfl⟩
  have htables := failed_logins_look_alike.1 loneService none (midway spoiltTables)
    (midway spoiltTables) _ _ hanswers hanswers Iff.rfl hada hbob
  have hmemory := failed_logins_look_alike.2 ⟨[], "issuer"⟩ {} none (midway spoiltMemory)
    (midway spoiltMemory) _ _ rfl rfl Iff.rfl hada hbob
  have hfree : (midway spoiltTables).pool.free ≠ 0 := by decide
  exact ⟨⟨hada, hbob⟩, ⟨htables.1, htables.2.1 hfree⟩, hmemory.1⟩

end SessionAuth
