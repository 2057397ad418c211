import SessionAuth.Proofs.Service.Accounts
import SessionAuth.Proofs.Service.Spent

/-!
Registration and login agree.

Whom a login lets in is decided by the registrations before it: by the one for the same address, if there
is one and it was made with the same password. One half of this holds under all circumstances: a login
that succeeds has found an account, accounts go back to registrations, and what is checked against a
hash is a digest. The other half needs that nothing stands in the way: the store answers, what is
drawn is new to it, and the lifetimes lead to dates.
-/

set_option autoImplicit false

namespace SessionAuth

open Database (Condition Ready Within SessionRow UserRow Tables)

variable {σ τ : Type}

/-! ## A login that nothing stands in the way of -/

section Done

variable {s : Service σ} {st : ServiceState σ} {user : User} {client : Client}

/-- A session for a user can be opened: there is a secret to be drawn, and the store takes it. -/
def CanOpen (s : Service σ) (user : User) (client : Client) (w : World σ) : Prop :=
  ∃ secret rest, RefreshSecret.draw? w.random = some (secret, rest)
    ∧ ∀ expires, Ensures (s.store.createSession user.id secret expires client none)
        { w with random := rest } (fun _ _ => True) (fun _ _ => False)

/-- **Nothing but the lifetimes can stand in the way of a login**: the credentials are those of a user whom
the store finds under the address, and a session can be opened for this user afterwards. -/
structure Service.Expects (s : Service σ) (w : World σ) (user : User) (raw password : String)
    (client : Client) : Prop where
  found : ∃ email, Email.parse raw = .ok email
    ∧ Ensures (s.store.findUserByEmail email) w
        (fun r w' => r = some user ∧ w'.now = w.now ∧ CanOpen s user client w')
        (fun _ _ => False)
  nonempty : password.isEmpty = false
  known : Hasher.verify password user.passwordHash = .ok ()

theorem Service.openSession_done (hopen : CanOpen s user client st.world)
    (hrefresh : st.world.now.after? s.settings.refreshLifetime ≠ none)
    (haccess : st.world.now.after? s.settings.accessLifetime ≠ none) :
    Ensures (s.openSession user client) st (fun tokens _ => tokens.userId = user.id)
      (fun _ _ => False) := by
  obtain ⟨secret, rest, hdraw, hcreate⟩ := hopen
  refine Ensures.bind (newRefreshSecret_drawn hdraw) ?_
  rintro _ _ ⟨rfl, rfl⟩
  refine Ensures.bind (expiryAfter_ensures.mono (fun _ _ h => h.1)
    fun _ _ h => absurd h.2 hrefresh) ?_
  rintro expires _ rfl
  refine Ensures.bind (issue_ensures.mono (fun _ _ h => And.intro h.1 h.2.1)
    fun _ _ h => absurd h.2 haccess) ?_
  rintro tokens _ ⟨rfl, huser⟩
  refine Ensures.bind ((boundedSession_ensures (hcreate expires)).mono (fun _ _ _ => trivial)
    fun _ _ ⟨_, _, h, _⟩ => h) ?_
  rintro id st₁ -
  exact Serve.report_bind fun _ _ => huser

/-- Where a lifetime leads to no date, no session is opened, and what the cause is stays inside. -/
theorem Service.openSession_undated (hopen : CanOpen s user client st.world)
    (hundated : st.world.now.after? s.settings.refreshLifetime = none
      ∨ st.world.now.after? s.settings.accessLifetime = none) :
    Ensures (s.openSession user client) st (fun _ _ => False)
      (fun e _ => e = .refused .internal) := by
  obtain ⟨secret, rest, hdraw, -⟩ := hopen
  refine Ensures.bind (newRefreshSecret_drawn hdraw) ?_
  rintro _ _ ⟨rfl, rfl⟩
  refine Ensures.bind (expiryAfter_ensures.and (expiryAfter_internal fun _ => rfl) |>.mono
    (fun _ _ h => h.1) fun _ _ h => h.2) ?_
  rintro expires _ ⟨rfl, hdate⟩
  have haccess : st.world.now.after? s.settings.accessLifetime = none :=
    hundated.resolve_left fun hnone => nomatch hnone.symm.trans hdate
  refine Ensures.bind (issue_ensures.and (issue_internal fun _ => rfl) |>.mono
    (fun _ _ h => h.1) fun _ _ h => h.2) ?_
  rintro tokens _ ⟨rfl, -, -, -, hissued⟩
  exact absurd haccess hissued

variable {raw password : String}

/-- A user who is expected gets as far as the session. -/
theorem Service.login_opens {Q : IssuedTokens → ServiceState σ → Prop}
    {F : Failure AuthFault → ServiceState σ → Prop}
    (hexpects : s.Expects st.world user raw password client) (hfree : 0 < st.pool.free)
    (hopens : ∀ st', st'.world.now = st.world.now → CanOpen s user client st'.world →
      Ensures (s.openSession user client) st' Q F) :
    Ensures (s.login raw password client) st Q F := by
  obtain ⟨email, hemail, hfind⟩ := hexpects.found
  refine Ensures.bind (requireEmail_accepts hemail) ?_
  rintro email st₀ ⟨rfl, rfl⟩
  show Ensures (if password.isEmpty then _ else _) _ _ _
  rw [hexpects.nonempty, if_neg Bool.false_ne_true]
  refine Ensures.bind_mono (bounded_ensures hfind) (fun _ _ ⟨_, _, h, _⟩ => h.elim) ?_
  rintro (fault | _) _ ⟨w, rfl, hr⟩
  · exact hr.elim
  obtain ⟨rfl, hnow, hopen⟩ := hr
  have hauthenticated : Ensures (authenticate Serve.verify user password : Serve σ AuthFault Unit)
      { st₀ with world := w } (fun _ st' => st'.world = w) F := by
    refine Ensures.bind (Serve.verify_done hfree) ?_
    rintro _ _ ⟨rfl, rfl⟩
    rw [hexpects.known]
    rfl
  refine Ensures.bind hauthenticated ?_
  rintro _ st₁ rfl
  exact hopens st₁ hnow hopen

/-- A user who is expected is logged in, if the lifetimes lead to dates. -/
theorem Service.login_done (hexpects : s.Expects st.world user raw password client)
    (hfree : 0 < st.pool.free)
    (hrefresh : st.world.now.after? s.settings.refreshLifetime ≠ none)
    (haccess : st.world.now.after? s.settings.accessLifetime ≠ none) :
    Ensures (s.login raw password client) st (fun tokens _ => tokens.userId = user.id)
      (fun _ _ => False) := by
  refine login_opens hexpects hfree fun st' hnow hopen => ?_
  rw [← hnow] at hrefresh haccess
  exact openSession_done hopen hrefresh haccess

/-- Where one of the lifetimes does not, even a user who is expected is refused for an internal fault. -/
theorem Service.login_undated (hexpects : s.Expects st.world user raw password client)
    (hfree : 0 < st.pool.free)
    (hundated : st.world.now.after? s.settings.refreshLifetime = none
      ∨ st.world.now.after? s.settings.accessLifetime = none) :
    Ensures (s.login raw password client) st (fun _ _ => False)
      (fun e _ => e = .refused .internal) := by
  refine login_opens hexpects hfree fun st' hnow hopen => ?_
  rw [← hnow] at hundated
  exact openSession_undated hopen hundated

end Done

/-! ## Fair circumstances of a login -/

/-- Both lifetimes lead to dates. -/
structure Occasion.Dated (settings : AuthSettings) (o : Occasion τ) : Prop where
  refresh : o.now.after? settings.refreshLifetime ≠ none
  access : o.now.after? settings.accessLifetime ≠ none

/-- **Nothing stands in the way of a login** on tables: the database answers and disturbs no statement,
the secret and the identifier that are drawn are new to the tables, and the lifetimes lead to dates. -/
structure Occasion.AdmitsLogin (settings : AuthSettings) (o : Occasion Condition) (t : Tables) :
    Prop where
  answers : o.condition.answers = true
  undisturbed : o.condition.troubles = []
  draws : ∃ secret rest id rest', RefreshSecret.draw? o.random = some (secret, rest)
    ∧ Uuid.random? rest = some (id, rest')
    ∧ (∀ row ∈ t.sessions, row.id ≠ ⟨id⟩)
    ∧ ∀ row ∈ t.sessions, row.digest ≠ RefreshSecret.digest secret
  dated : o.Dated settings

/-- **Nothing stands in the way of a login** in memory. Sessions are counted there, so that nothing that
is drawn can be there already. -/
structure Occasion.AdmitsLoginInMemory (settings : AuthSettings) (o : Occasion Misbehaviours) :
    Prop where
  finds : o.condition.findUserByEmail = none
  creates : o.condition.createSession = none
  random : o.random.canRead RefreshSecret.byteCount = true
  dated : o.Dated settings

/-- In a fair database, a session can be opened for a user who has a row, if what is drawn is new. -/
theorem TableService.canOpen (s : TableService) {w : World Database} {user : User} {client : Client}
    {secret : String} {rest rest' : RandomSource} {id : Uuid} (hw : w.store.Fair)
    (hsecret : RefreshSecret.draw? w.random = some (secret, rest))
    (hdraw : Uuid.random? rest = some (id, rest'))
    (hnewId : ∀ row ∈ w.store.tables.sessions, row.id ≠ ⟨id⟩)
    (hnewDigest : ∀ row ∈ w.store.tables.sessions, row.digest ≠ RefreshSecret.digest secret)
    (husers : ∃ row ∈ w.store.tables.users, row.id = user.id) :
    CanOpen s.service user client w := by
  refine ⟨secret, rest, hsecret, fun expires => ?_⟩
  refine (Relational.createSession_fair (w := { w with random := rest }) hw hdraw).mono
    (fun _ _ _ => trivial) ?_
  rintro _ _ ⟨fault, hrefused, -⟩
  have hback : ∀ p, (none : Option SessionId) = some p →
      ∃ row ∈ w.store.tables.sessions, row.id = p := by
    rintro _ ⟨⟩
  rw [Database.insertSession_eq_ok hnewId hnewDigest husers hback] at hrefused
  cases hrefused

/-- A fair database expects the users whose rows it holds, if what is drawn is new. -/
theorem TableService.expects (s : TableService) {w : World Database} {row : UserRow}
    {raw password secret : String} {client : Client} {email : Email} {rest rest' : RandomSource}
    {id : Uuid} (hw : w.store.Fair) (hemail : Email.parse raw = .ok email)
    (hnonempty : password.isEmpty = false)
    (hfind : w.store.tables.users.find? (·.email == email.text) = some row)
    (hverify : Hasher.verify password row.passwordHash = .ok ())
    (hsecret : RefreshSecret.draw? w.random = some (secret, rest))
    (hdraw : Uuid.random? rest = some (id, rest'))
    (hnewId : ∀ r ∈ w.store.tables.sessions, r.id ≠ ⟨id⟩)
    (hnewDigest : ∀ r ∈ w.store.tables.sessions, r.digest ≠ RefreshSecret.digest secret) :
    ∃ user : User, user.id = row.id ∧ s.service.Expects w user raw password client := by
  -- the address of the row is in normal form, so that the user can be loaded from it
  have hrow : row.email = email.text := Database.eq_of_find? hfind
  obtain ⟨user, hload⟩ : ∃ user, Relational.loadRow row = .ok user := by
    unfold Relational.loadRow
    rw [hrow, Email.parse_text hemail]
    exact ⟨_, rfl⟩
  have huser := Relational.ofUser_of_loadRow (Email.parse_text hemail) hrow hload
  have hid : user.id = row.id := congrArg Account.id huser
  have hhash : user.passwordHash = row.passwordHash := congrArg Account.passwordHash huser
  refine ⟨user, hid, ⟨email, hemail, ?_⟩, hnonempty, hhash ▸ hverify⟩
  refine (Relational.findUserByEmail_done hw hfind hload).mono ?_ fun _ _ h => h
  rintro r w' ⟨rfl, hin, ht, hrandom⟩
  have hmem : row ∈ w'.store.tables.users := by
    rw [ht]
    exact List.mem_of_find?_eq_some hfind
  rw [← ht] at hnewId hnewDigest
  exact ⟨rfl, hin.now,
    s.canOpen (hin.fair hw) (hrandom ▸ hsecret) hdraw hnewId hnewDigest ⟨row, hmem, hid.symm⟩⟩

/-- In fair circumstances, a login lets in whoever knows the password of an account in the tables. -/
theorem TableService.login_done (s : TableService) {o : Occasion Condition}
    {st : ServiceState Database} {raw password : String} {client : Client} {email : Email}
    {a : Account} (ho : o.AdmitsLogin s.settings st.tables) (hfree : 0 < st.pool.free)
    (hemail : Email.parse raw = .ok email) (hnonempty : password.isEmpty = false)
    (ha : accountAt (Database.meet o.condition st.world.store).accounts email.text = some a)
    (hverify : Hasher.verify password a.passwordHash = .ok ()) :
    Ensures (s.service.login raw password client) (st.meet Database.meet o)
      (fun tokens _ => tokens.userId = a.id) (fun _ _ => False) := by
  have hready := Database.meet_ready o.condition st.world.store
  have hfair : (st.meet Database.meet o).world.store.Fair :=
    Database.meet_fair ho.answers ho.undisturbed
  -- the account is that of a row
  rw [Database.accounts, hready.settled, Relational.accountAt_map] at ha
  obtain ⟨row, hfind, rfl⟩ := Option.map_eq_some_iff.mp ha
  obtain ⟨secret, rest, id, rest', hsecret, hdraw, hnewId, hnewDigest⟩ := ho.draws
  obtain ⟨user, hid, hexpects⟩ : ∃ user : User, user.id = row.id
      ∧ s.service.Expects (st.meet Database.meet o).world user raw password client :=
    s.expects hfair hemail hnonempty hfind hverify hsecret hdraw hnewId hnewDigest
  have hdone : Ensures (s.service.login raw password client) (st.meet Database.meet o)
      (fun tokens _ => tokens.userId = user.id) (fun _ _ => False) :=
    Service.login_done hexpects hfree ho.dated.refresh ho.dated.access
  exact hdone.mono (fun _ _ h => h.trans hid) fun _ _ h => h

/-- On tables without users, registration and login agree from then on. -/
theorem TableService.loginAgrees (s : TableService) {start : ServiceState Database}
    (hstart : start.tables.users = []) (hfree : 0 < start.pool.free)
    (hfits : start.pool.hasher.cost.Fits) :
    s.service.LoginAgrees Database.meet start fun o st => o.AdmitsLogin s.settings st.tables := by
  refine (Relational.keepsAccounts s.lockTimeout).loginAgrees (congrArg (List.map _) hstart) hfits ?_
  intro o st raw password client email a ho hpool hemail hnonempty ha hverify
  rw [← hpool] at hfree
  exact s.login_done ho hfree hemail hnonempty ha hverify

/-- A service on a store in memory. -/
def memoryService (signer : TokenSigner) (settings : AuthSettings) : Service MemoryStore :=
  ⟨MemoryStore.store, signer, settings⟩

/-- A store in memory that does what it is asked for expects the users whom it holds. -/
theorem MemoryStore.expects {signer : TokenSigner} {settings : AuthSettings} {w : World MemoryStore}
    {user : User} {raw password : String} {client : Client} {email : Email}
    (hfinds : w.store.misbehaviours.findUserByEmail = none)
    (hcreates : w.store.misbehaviours.createSession = none)
    (hrandom : w.random.canRead RefreshSecret.byteCount = true) (hemail : Email.parse raw = .ok email)
    (hnonempty : password.isEmpty = false)
    (hfind : w.store.users.find? (·.email == email) = some user)
    (hverify : Hasher.verify password user.passwordHash = .ok ()) :
    (memoryService signer settings).Expects w user raw password client := by
  obtain ⟨⟨secret, rest⟩, hsecret⟩ :=
    Option.ne_none_iff_exists'.mp (RefreshSecret.draw?_ne_none hrandom)
  refine ⟨⟨email, hemail, ?_⟩, hnonempty, hverify⟩
  refine (findUserByEmail_done hfinds hfind).mono ?_ fun _ _ h => h
  rintro r w' ⟨rfl, rfl⟩
  exact ⟨rfl, rfl, secret, rest, hsecret, fun expires => createSession_done hcreates⟩

/-- In fair circumstances, a login lets in whoever knows the password of an account in memory. -/
theorem MemoryStore.login_done {signer : TokenSigner} {settings : AuthSettings}
    {o : Occasion Misbehaviours} {st : ServiceState MemoryStore} {raw password : String}
    {client : Client} {email : Email} {a : Account} (ho : o.AdmitsLoginInMemory settings)
    (hfree : 0 < st.pool.free) (hemail : Email.parse raw = .ok email)
    (hnonempty : password.isEmpty = false)
    (ha : accountAt st.world.store.accounts email.text = some a)
    (hverify : Hasher.verify password a.passwordHash = .ok ()) :
    Ensures ((memoryService signer settings).login raw password client) (st.meet meet o)
      (fun tokens _ => tokens.userId = a.id) (fun _ _ => False) := by
  rw [accounts, accountAt_map] at ha
  obtain ⟨user, hfind, rfl⟩ := Option.map_eq_some_iff.mp ha
  have hexpects : (memoryService signer settings).Expects (st.meet meet o).world user raw password
      client := expects ho.finds ho.creates ho.random hemail hnonempty hfind hverify
  exact Service.login_done hexpects hfree ho.dated.refresh ho.dated.access

/-! ## Both stores -/

/-- **Registration and login agree**, on either store, in every run that starts without users, and for
every signer and setting. Where a login is not held up by its circumstances, it is answered with tokens
for a user exactly if a registration before it, for the same address and with the same password, was
answered with that user; the requests in between, and the circumstances of all of them, are arbitrary.

The numbers of the cost have 32 bits, and the pool has a permit. That equal digests come from equal
passwords is asked of the passwords of the run only. -/
theorem login_iff_registered :
    (∀ (s : TableService) (start : ServiceState Database),
      start.tables.users = [] → 0 < start.pool.free → start.pool.hasher.cost.Fits →
      s.service.LoginAgrees Database.meet start fun o st => o.AdmitsLogin s.settings st.tables)
    ∧ ∀ (signer : TokenSigner) (settings : AuthSettings) (start : ServiceState MemoryStore),
      start.world.store.users = [] → 0 < start.pool.free → start.pool.hasher.cost.Fits →
      (memoryService signer settings).LoginAgrees MemoryStore.meet start
        fun o _ => o.AdmitsLoginInMemory settings := by
  refine ⟨fun s start hstart hfree hfits => ?_, fun signer settings start hstart hfree hfits => ?_⟩
  · exact s.loginAgrees hstart hfree hfits
  · refine MemoryStore.keepsAccounts.loginAgrees (congrArg (List.map _) hstart) hfits ?_
    intro o st raw password client email a ho hpool hemail hnonempty ha hverify
    rw [← hpool] at hfree
    exact MemoryStore.login_done ho hfree hemail hnonempty ha hverify

/-! ### A user who registers and logs in -/

/-- Who has just registered can log in, if the registration has succeeded: its own password is the only
one that has to be told from the one presented. -/
theorem Service.LoginAgrees.registered {s : Service σ} {change : τ → σ → σ}
    {start : ServiceState σ} {fair : Occasion τ → ServiceState σ → Prop}
    (h : s.LoginAgrees change start fair) {first o : Occasion τ} {raw raw' password : String}
    {client : Client} (hfirst : first.request = .register raw' password)
    (hopened : (s.visit change first start).1.account?.isSome = true)
    (hraw : Email.parse raw' = Email.parse raw) (ho : fair o (s.visit change first start).2) :
    ∃ tokens, (s.visit change { o with request := .login raw password client }
        (s.visit change first start).2).1 = ⟨.login raw password client, .ok tokens⟩
      ∧ Registered [(s.visit change first start).1] raw password tokens.userId := by
  have hrequest : (s.visit change first start).1.request = first.request := rfl
  obtain ⟨a, ha⟩ := Option.isSome_iff_exists.mp hopened
  obtain ⟨raw₁, password₁, user, hx, -⟩ := Exchange.eq_of_account? ha
  rw [hx, hfirst] at hrequest
  obtain ⟨rfl, rfl⟩ : raw₁ = raw' ∧ password₁ = password := Request.register.inj hrequest
  have hregistered : Registered [(s.visit change first start).1] raw password₁ user.id :=
    ⟨raw₁, user, by rw [hx]; exact List.mem_singleton_self _, hraw, rfl⟩
  have hseparates : ∀ raw₂ password₂ (user₂ : User),
      (⟨.register raw₂ password₂, .ok user₂⟩ : Exchange) ∈ [(s.visit change first start).1] →
      start.pool.hasher.Separates password₂ password₁ := by
    intro raw₂ password₂ user₂ hmem salt _ _
    rw [hx] at hmem
    have heq := congrArg Exchange.request (List.mem_singleton.mp hmem)
    exact (Request.register.inj heq).2.symm
  obtain ⟨tokens, htokens, huser⟩ := (h [first] o raw password₁ client ho hseparates user.id).mpr
    hregistered
  exact ⟨tokens, htokens, huser ▸ hregistered⟩

/-- Somebody registers. -/
def joining (condition : τ) : Occasion τ :=
  ⟨.register "Ada@Example.com" "correct horse", .epoch, ⟨.ofSeed 1, none⟩, condition⟩

/-- The same person comes back a minute later. -/
def returning (condition : τ) : Occasion τ :=
  ⟨.validate "", .ofSeconds 60, ⟨.ofSeed 2, some 48⟩, condition⟩

/-- A pool with one permit, whose hashes cost next to nothing. -/
def lightPool : HashingPool := ⟨⟨⟨8, 1, 1⟩, rfl⟩, 1⟩

/-- A service that has just been started on a store in memory. -/
def freshMemory : ServiceState MemoryStore where
  world := { now := .epoch, random := ⟨.ofSeed 0, none⟩, events := [], store := {} }
  pool := lightPool
  dummyHash := none

/-- Behind the registration, nothing stands in the way of a login. -/
theorem returning_admitsLogin : (returning {}).AdmitsLogin loneService.settings
    (loneService.service.visit Database.meet (joining {}) (.fresh lightPool)).2.tables := by
  have hsessions : (loneService.service.visit Database.meet (joining {})
      (.fresh lightPool)).2.tables.sessions = [] := by decide +kernel
  refine ⟨rfl, rfl, ⟨_, _, _, _, rfl, rfl, ?_, ?_⟩, by decide, by decide⟩
  · rw [hsessions]
    exact nofun
  · rw [hsessions]
    exact nofun

theorem login_iff_registered_returning :
    (∃ tokens, (loneService.service.visit Database.meet
        { returning {} with request := .login " ada@example.COM" "correct horse" ⟨none, none⟩ }
        (loneService.service.visit Database.meet (joining {}) (.fresh lightPool)).2).1
          = ⟨.login " ada@example.COM" "correct horse" ⟨none, none⟩, .ok tokens⟩)
    ∧ ∃ tokens, ((memoryService ⟨[], "issuer"⟩ {}).visit MemoryStore.meet
        { returning {} with request := .login " ada@example.COM" "correct horse" ⟨none, none⟩ }
        ((memoryService ⟨[], "issuer"⟩ {}).visit MemoryStore.meet (joining {}) freshMemory).2).1
          = ⟨.login " ada@example.COM" "correct horse" ⟨none, none⟩, .ok tokens⟩ := by
  have hraw : Email.parse "Ada@Example.com" = Email.parse " ada@example.COM" := by
    decide +kernel
  have hfits : lightPool.hasher.cost.Fits := ⟨by decide, by decide⟩
  constructor
  · have hopened : (loneService.service.visit Database.meet (joining {})
        (.fresh lightPool)).1.account?.isSome = true := by decide +kernel
    obtain ⟨tokens, htokens, -⟩ := (login_iff_registered.1 loneService (.fresh lightPool) rfl
      (by decide) hfits).registered rfl hopened hraw returning_admitsLogin
    exact ⟨tokens, htokens⟩
  · have hopened : ((memoryService ⟨[], "issuer"⟩ {}).visit MemoryStore.meet (joining {})
        freshMemory).1.account?.isSome = true := by decide +kernel
    have ho : (returning {}).AdmitsLoginInMemory ({} : AuthSettings) :=
      ⟨rfl, rfl, rfl, by decide, by decide⟩
    obtain ⟨tokens, htokens, -⟩ := (login_iff_registered.2 ⟨[], "issuer"⟩ {} freshMemory rfl
      (by decide) hfits).registered rfl hopened hraw ho
    exact ⟨tokens, htokens⟩

end SessionAuth
