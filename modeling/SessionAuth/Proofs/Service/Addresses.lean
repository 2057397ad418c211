import SessionAuth.Proofs.Service.Login

/-!
Addresses stay unique and normal.

An account is opened by a registration only, under the address in normal form, and not where the address
is taken. So the addresses of a store are those of the registrations that have succeeded, each of them
once. This holds under all circumstances. That a registration is refused for no other reason than that
its address is taken needs that nothing else stands in the way: a store that answers, a salt, and an
identifier that is not in use.
-/

set_option autoImplicit false

namespace SessionAuth

open Database (Condition Tables UserRow Within)

variable {σ τ κ : Type}

/-! ## A registration that gets as far as the store -/

theorem Password.ofText?_of_long {s : String} (h : leastLength ≤ s.length) :
    ofText? s = some ⟨s, h⟩ := dif_pos h

theorem Password.isEmpty_of_long {s : String} (h : leastLength ≤ s.length) : s.isEmpty = false := by
  rw [Bool.eq_false_iff]
  intro hempty
  obtain rfl := String.isEmpty_iff.mp hempty
  exact absurd h (by decide)

/-- What is drawn for a new user: a salt, and an identifier behind it. -/
def DrawsUser (r : RandomSource) (id : Uuid) (rest' : RandomSource) : Prop :=
  ∃ salt rest, r.draw? Hasher.saltLength = some (salt, rest) ∧ Uuid.random? rest = some (id, rest')

/-- **With a well-formed address and a password that is long enough, a registration comes down to the
call of the store**: where this adds the user, or says that the address is taken, so does the
registration. -/
theorem Service.register_decided {s : Service σ} {st : ServiceState σ} {raw password : String}
    {email : Email} {id : Uuid} {rest : RandomSource} {P G : σ → Prop}
    (hemail : Email.parse raw = .ok email) (hlong : Password.leastLength ≤ password.length)
    (hfree : 0 < st.pool.free) (hdraws : DrawsUser st.world.random id rest)
    (hcreate : ∀ u : User, u.id = ⟨id⟩ → u.email = email →
      Ensures (s.store.createUser u) { st.world with random := rest }
        (fun v w => v = u ∧ P w.store)
        (fun e w => e = .refused (.emailTaken email.text) ∧ G w.store)) :
    Ensures (s.register raw password) st
      (fun u st' => u.email = email ∧ P st'.world.store)
      (fun e st' => e = .refused .alreadyExists ∧ G st'.world.store) := by
  obtain ⟨salt, rest₁, hsalt, hid⟩ := hdraws
  refine Ensures.bind (requireEmail_accepts hemail) ?_
  rintro email st₀ ⟨rfl, rfl⟩
  rw [Password.ofText?_of_long hlong]
  refine Ensures.bind (Serve.hash_drawn hfree (Password.isEmpty_of_long hlong) hsalt) ?_
  rintro _ _ ⟨⟨text, rfl⟩, rfl⟩
  refine Ensures.get_bind ?_
  have hdrawn : Ensures (Serve.act (Act.draw
      (User.register? email text st₀.world.now)) : Serve σ AuthFault User)
      { st₀ with world := { st₀.world with random := rest₁ } }
      (fun (u : User) st' => (u.id = ⟨id⟩ ∧ u.email = email)
        ∧ st'.world = { st₀.world with random := rest })
      (fun _ _ => False) := by
    refine Serve.act_ensures (P := fun (u : User) w => (u.id = ⟨id⟩ ∧ u.email = email)
      ∧ w = { st₀.world with random := rest }) (G := fun _ _ => False)
      (Act.draw_ensures (fun u r hu => ?_) fun hu => ?_)
    · rw [User.register?, hid] at hu
      obtain ⟨rfl, rfl⟩ := Prod.mk.inj (Option.some.inj hu)
      exact ⟨⟨rfl, rfl⟩, rfl⟩
    · rw [User.register?, hid] at hu
      cases hu
  refine Ensures.bind_mono hdrawn (fun _ _ h => h.elim) ?_
  rintro u st₂ ⟨⟨huid, huemail⟩, hst₂⟩
  have hcreate₂ := hcreate u huid huemail
  rw [← hst₂] at hcreate₂
  refine Ensures.bind_mono (bounded_ensures hcreate₂) ?_ ?_
  · rintro e st₃ ⟨f, w, ⟨rfl, -⟩, -, hf⟩
    exact hf.elim
  · rintro (fault | v) _ ⟨w, rfl, hr⟩
    · obtain ⟨hfault, hG⟩ := hr
      obtain rfl := Failure.refused.inj hfault
      exact Serve.report_bind fun st₃ h₃ => ⟨rfl, by rw [h₃.store]; exact hG⟩
    · obtain ⟨rfl, hP⟩ := hr
      exact Serve.report_bind fun st₃ h₃ => ⟨huemail, by rw [h₃.store]; exact hP⟩

/-! ## Fair circumstances of a registration -/

/-- **Nothing stands in the way of a registration** on tables: the database answers and disturbs no
statement, and there is a salt to be drawn and behind it an identifier that no user has. -/
structure Occasion.AdmitsUser (o : Occasion Condition) (t : Tables) : Prop where
  answers : o.condition.answers = true
  undisturbed : o.condition.troubles = []
  draws : ∃ id rest, DrawsUser o.random id rest ∧ ∀ row ∈ t.users, row.id ≠ ⟨id⟩

/-- **Nothing stands in the way of a registration** in memory, where identifiers are not compared. -/
structure Occasion.AdmitsUserInMemory (o : Occasion Misbehaviours) : Prop where
  creates : o.condition.createUser = none
  draws : ∃ id rest, DrawsUser o.random id rest

/-! ## What holds of a history -/

/-- **Addresses are unique and normal** behind a history. No two are the same, and each is read as
itself; a registration in fair circumstances is refused, for a reason of its own, exactly if its address
is there, and then nothing changes; and no two registrations of the history have succeeded for one
address, in whatever spelling. -/
structure Service.KeepsAddresses (s : Service σ) (change : τ → σ → σ) (addresses : σ → List String)
    (content : σ → κ) (fair : Occasion τ → ServiceState σ → Prop)
    (history : List Exchange × ServiceState σ) : Prop where
  distinct : (addresses history.2.world.store).Nodup
  normal : ∀ a ∈ addresses history.2.world.store, Email.parse a = .ok ⟨a⟩
  decided : ∀ (o : Occasion τ) (raw password : String) (email : Email), fair o history.2 →
    Email.parse raw = .ok email → 12 ≤ password.length →
    let x := s.visit change { o with request := .register raw password } history.2
    (x.1 = ⟨.register raw password, .error (.refused .alreadyExists)⟩
        ↔ email.text ∈ addresses history.2.world.store)
      ∧ (email.text ∈ addresses history.2.world.store →
        content x.2.world.store = content history.2.world.store)
      ∧ (email.text ∉ addresses history.2.world.store →
        ∃ u : User, x.1 = ⟨.register raw password, .ok u⟩ ∧ u.email = email)
  once : ∀ (i j : Nat) (raw password raw' password' : String) (u u' : User),
    history.1[i]? = some ⟨.register raw password, .ok u⟩ →
    history.1[j]? = some ⟨.register raw' password', .ok u'⟩ →
    Email.parse raw = Email.parse raw' → i = j

namespace History

variable {h : Hasher} {xs : List Exchange} {accounts : List Account}

/-- The addresses that there are have been read. -/
theorem normal (hist : History h xs accounts) {a : String} (ha : a ∈ accounts.map (·.address)) :
    Email.parse a = .ok ⟨a⟩ := by
  rw [hist.opened] at ha
  obtain ⟨account, hmem, rfl⟩ := List.mem_map.mp ha
  obtain ⟨x, hx, hopened⟩ := List.mem_filterMap.mp hmem
  obtain ⟨raw, password, u, rfl, rfl⟩ := Exchange.eq_of_account? hopened
  exact Email.parse_text (hist.made raw password u hx).address

/-- Of two exchanges, at most one has opened an account with an address. -/
theorem pairwise_address (hist : History h xs accounts) :
    xs.Pairwise fun x y => ∀ a, x.account? = some a → ∀ b, y.account? = some b →
      a.address ≠ b.address := by
  have haddresses := hist.addresses
  rw [hist.opened, List.Nodup, List.pairwise_map, List.pairwise_filterMap] at haddresses
  exact haddresses

/-- Two registrations for one address that have succeeded are one. -/
theorem once (hist : History h xs accounts) {i j : Nat} {raw password raw' password' : String}
    {u u' : User} (hi : xs[i]? = some ⟨.register raw password, .ok u⟩)
    (hj : xs[j]? = some ⟨.register raw' password', .ok u'⟩)
    (hraw : Email.parse raw = Email.parse raw') : i = j := by
  have hu := (hist.made raw password u (List.mem_of_getElem? hi)).address
  have hu' := (hist.made raw' password' u' (List.mem_of_getElem? hj)).address
  have hsame : u.email.text = u'.email.text := by
    rw [hraw, hu'] at hu
    rw [Except.ok.inj hu]
  have happart := List.pairwise_iff_getElem.mp hist.pairwise_address
  obtain ⟨hilt, hxi⟩ := List.getElem?_eq_some_iff.mp hi
  obtain ⟨hjlt, hxj⟩ := List.getElem?_eq_some_iff.mp hj
  rcases Nat.lt_trichotomy i j with hlt | heq | hlt
  · exact absurd hsame (happart i j hilt hjlt hlt (.ofUser u) (by rw [hxi]; rfl) (.ofUser u')
      (by rw [hxj]; rfl))
  · exact heq
  · exact absurd hsame.symm (happart j i hjlt hilt hlt (.ofUser u') (by rw [hxj]; rfl) (.ofUser u)
      (by rw [hxi]; rfl))

end History

/-- **A store that keeps accounts keeps addresses unique and normal**, if in fair circumstances it takes
every user whose address is new. -/
theorem Store.KeepsAccounts.keepsAddresses {s : Service σ} {change : τ → σ → σ} {ready : σ → Prop}
    {accounts : σ → List Account} (hs : s.store.KeepsAccounts change ready accounts)
    {start : ServiceState σ} {fair : Occasion τ → ServiceState σ → Prop} {content : σ → κ}
    (hstart : accounts start.world.store = []) (hfree : 0 < start.pool.free)
    (hfair : ∀ (o : Occasion τ) (st : ServiceState σ), fair o st →
      ∃ id rest, DrawsUser o.random id rest ∧ ∀ u : User, u.id = ⟨id⟩ →
        Ensures (s.store.createUser u) { (st.meet change o).world with random := rest }
          (fun v _ => v = u ∧ u.email.text ∉ (accounts st.world.store).map (·.address))
          (fun e w => e = .refused (.emailTaken u.email.text)
            ∧ u.email.text ∈ (accounts st.world.store).map (·.address)
            ∧ content w.store = content st.world.store))
    (before : List (Occasion τ)) :
    s.KeepsAddresses change (fun m => (accounts m).map (·.address)) content fair
      (s.run change before start) := by
  obtain ⟨hpool, hist⟩ := hs.run before hstart
  generalize s.run change before start = history at *
  obtain ⟨xs, st⟩ := history
  refine ⟨hist.addresses, fun _ => hist.normal, ?_, fun _ _ _ _ _ _ _ _ => hist.once⟩
  intro o raw password email ho hemail hlong x
  obtain ⟨id, rest, hdraws, hcreate⟩ := hfair o _ ho
  rw [← hpool] at hfree
  have hserved : Ensures (s.register raw password)
      (st.meet change { o with request := .register raw password })
      (fun u _ => u.email = email ∧ email.text ∉ (accounts st.world.store).map (·.address))
      (fun e st' => e = .refused .alreadyExists
        ∧ email.text ∈ (accounts st.world.store).map (·.address)
        ∧ content st'.world.store = content st.world.store) := by
    refine Service.register_decided (P := fun _ => _) (G := fun m => _ ∧ content m = _)
      hemail hlong hfree hdraws fun u hid hu => ?_
    subst hu
    exact hcreate u hid
  rcases Service.visit_cases (o := { o with request := .register raw password }) rfl hserved with
    ⟨u, hx, hu, hnew⟩ | ⟨_, hx, rfl, htaken, hcontent⟩
  · refine ⟨⟨fun hrefused => ?_, fun htaken => absurd htaken hnew⟩, fun htaken => absurd htaken hnew,
      fun _ => ⟨u, hx, hu⟩⟩
    cases hx.symm.trans hrefused
  · exact ⟨⟨fun _ => htaken, fun _ => hx⟩, fun _ => hcontent, fun hnew => absurd htaken hnew⟩

/-! ## Both stores -/

/-- The addresses in the tables. -/
def Database.addresses (db : Database) : List String := db.settled.users.map (·.email)

/-- The addresses in memory. -/
def MemoryStore.addresses (m : MemoryStore) : List String := m.users.map (·.email.text)

theorem Database.accounts_addresses (db : Database) :
    db.accounts.map (·.address) = db.addresses := List.map_map

theorem MemoryStore.accounts_addresses (m : MemoryStore) :
    m.accounts.map (·.address) = m.addresses := List.map_map

/-- The tables keep addresses unique and normal. -/
theorem TableService.keepsAddresses (s : TableService) {start : ServiceState Database}
    (hstart : start.tables.users = []) (hfree : 0 < start.pool.free)
    (before : List (Occasion Condition)) :
    s.service.KeepsAddresses Database.meet Database.addresses Database.settled
      (fun o st => o.AdmitsUser st.tables) (s.service.run Database.meet before start) := by
  have haddresses : Database.addresses = fun db => db.accounts.map (·.address) :=
    funext fun db => (Database.accounts_addresses db).symm
  rw [haddresses]
  refine (Relational.keepsAccounts s.lockTimeout).keepsAddresses (s := s.service)
    (congrArg (List.map _) hstart) hfree ?_ before
  intro o st ho
  obtain ⟨id, rest, hdraws, hunused⟩ := ho.draws
  refine ⟨id, rest, hdraws, fun u hid => ?_⟩
  have hfair : (st.meet Database.meet o).world.store.Fair :=
    Database.meet_fair ho.answers ho.undisturbed
  have hmem : u.email.text ∈ (Database.accounts st.world.store).map (·.address)
      ↔ ∃ row ∈ st.tables.users, row.email = u.email.text := by
    rw [Database.accounts_addresses]
    exact List.mem_map
  rw [hmem]
  refine (Relational.createUser_fair (w := { (st.meet Database.meet o).world with random := rest })
    hfair (hid ▸ hunused)).mono ?_ ?_
  · rintro v _ ⟨rfl, hnew⟩
    exact ⟨rfl, fun ⟨row, hrow, heq⟩ => hnew row hrow heq⟩
  · rintro e w ⟨rfl, htaken, hin, ht⟩
    exact ⟨rfl, htaken, (hin.settled (Database.meet_ready o.condition st.world.store)).trans ht⟩

/-- So does the store in memory. -/
theorem MemoryStore.keepsAddresses {signer : TokenSigner} {settings : AuthSettings}
    {start : ServiceState MemoryStore} (hstart : start.world.store.users = [])
    (hfree : 0 < start.pool.free) (before : List (Occasion Misbehaviours)) :
    (memoryService signer settings).KeepsAddresses meet addresses (fun m => (m.users, m.sessions))
      (fun o _ => o.AdmitsUserInMemory) ((memoryService signer settings).run meet before start) := by
  have haddresses : addresses = fun m => m.accounts.map (·.address) :=
    funext fun m => m.accounts_addresses.symm
  rw [haddresses]
  refine keepsAccounts.keepsAddresses (s := memoryService signer settings)
    (congrArg (List.map _) hstart) hfree ?_ before
  intro o st ho
  obtain ⟨id, rest, hdraws⟩ := ho.draws
  refine ⟨id, rest, hdraws, fun u _ => answering_calm ho.creates (Act.store_bind ?_)⟩
  have hmem : u.email.text ∈ st.world.store.accounts.map (·.address)
      ↔ st.world.store.users.any (·.email == u.email) = true := by
    rw [accounts_addresses, List.any_eq_true, addresses, List.mem_map]
    refine exists_congr fun v => and_congr_right fun _ => ?_
    rw [beq_iff_eq]
    exact ⟨fun h => congrArg Email.mk h, congrArg Email.text⟩
  rw [hmem]
  split
  · exact ⟨rfl, ‹_›, rfl⟩
  · exact Act.modifyStore_bind ⟨rfl, ‹_›⟩

/-- **Addresses stay unique and normal**, on either store, in every run that starts without users and
whatever comes of its requests. -/
theorem addresses_stay_unique :
    (∀ (s : TableService) (start : ServiceState Database), start.tables.users = [] →
      0 < start.pool.free → ∀ before,
        s.service.KeepsAddresses Database.meet Database.addresses Database.settled
          (fun o st => o.AdmitsUser st.tables) (s.service.run Database.meet before start))
    ∧ ∀ (signer : TokenSigner) (settings : AuthSettings) (start : ServiceState MemoryStore),
      start.world.store.users = [] → 0 < start.pool.free → ∀ before,
        (memoryService signer settings).KeepsAddresses MemoryStore.meet MemoryStore.addresses
          (fun m => (m.users, m.sessions)) (fun o _ => o.AdmitsUserInMemory)
          ((memoryService signer settings).run MemoryStore.meet before start) :=
  ⟨fun s _ hstart hfree before => s.keepsAddresses hstart hfree before,
    fun _ _ _ hstart hfree before => MemoryStore.keepsAddresses hstart hfree before⟩

/-- Somebody who has registered does so again, with another spelling and another password. -/
theorem addresses_stay_unique_joining :
    (loneService.service.visit Database.meet
        { returning {} with request := .register " ada@example.COM" "battery staple" }
        (loneService.service.visit Database.meet (joining {}) (.fresh lightPool)).2).1
      = ⟨.register " ada@example.COM" "battery staple", .error (.refused .alreadyExists)⟩
    ∧ ((memoryService ⟨[], "issuer"⟩ {}).visit MemoryStore.meet
        { returning {} with request := .register " ada@example.COM" "battery staple" }
        ((memoryService ⟨[], "issuer"⟩ {}).visit MemoryStore.meet (joining {}) freshMemory).2).1
      = ⟨.register " ada@example.COM" "battery staple", .error (.refused .alreadyExists)⟩ := by
  have hraw : Email.parse " ada@example.COM" = .ok ⟨"ada@example.com"⟩ := by decide +kernel
  constructor
  · have hkept := addresses_stay_unique.1 loneService (.fresh lightPool) rfl (by decide) [joining {}]
    refine (hkept.decided (returning {}) _ _ _ ⟨rfl, rfl, _, _, ⟨_, _, rfl, rfl⟩, ?_⟩ hraw
      (by decide)).1.mpr ?_
    · decide +kernel
    · decide +kernel
  · have hkept := addresses_stay_unique.2 ⟨[], "issuer"⟩ {} freshMemory rfl (by decide) [joining {}]
    refine (hkept.decided (returning {}) _ _ _ ⟨rfl, _, _, _, _, rfl, rfl⟩ hraw
      (by decide)).1.mpr ?_
    decide +kernel

end SessionAuth
