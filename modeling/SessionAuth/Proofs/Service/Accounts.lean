import SessionAuth.Proofs.Account.Email
import SessionAuth.Proofs.Database.Constraints
import SessionAuth.Proofs.Password.Hasher
import SessionAuth.Proofs.Service.Moves
import SessionAuth.Proofs.Store.Accounts

/-!
How the accounts of a store follow from the requests that have been served.

An exchange does one of two things to the accounts (`AccountStep`): it opens one, which a registration
does that succeeds, or it leaves them alone. By induction, the accounts of a store are those that the
registrations of its past have opened (`History`), and what a login goes by is what a registration has
left. This is the same for every store that keeps accounts.
-/

set_option autoImplicit false

namespace SessionAuth

variable {σ τ : Type}

/-! ## What a registration stores -/

theorem Password.text_of_ofText? {s : String} {password : Password}
    (h : Password.ofText? s = some password) : password.text = s := by
  unfold Password.ofText? at h
  split at h
  · rw [← Option.some.inj h]
  · cases h

/-- The account that an exchange has opened, if it has opened one. -/
def Exchange.account? : Exchange → Option Account
  | ⟨.register _ _, .ok user⟩ => some (.ofUser user)
  | _ => none

/-- The user has been made by a registration with this address and this password. -/
structure User.MadeFor (u : User) (h : Hasher) (raw password : String) : Prop where
  address : Email.parse raw = .ok u.email
  nonempty : password.isEmpty = false
  hash : ∃ salt : Bytes, salt.length = Hasher.saltLength
    ∧ u.passwordHash = (h.encode password salt).toText

/-! ## What an exchange does to the accounts -/

/-- **What an exchange does to the accounts**: it opens one whose address is new, or nothing. -/
inductive AccountStep (h : Hasher) (accounts : List Account) : Exchange → List Account → Prop where
  | opened {raw password : String} {u : User} (hmade : u.MadeFor h raw password)
      (hnew : ∀ a ∈ accounts, a.address ≠ u.email.text) :
      AccountStep h accounts ⟨.register raw password, .ok u⟩ (accounts ++ [.ofUser u])
  | kept {x : Exchange} (hx : x.account? = none) : AccountStep h accounts x accounts

namespace Store.KeepsAccounts

variable {s : Service σ} {change : τ → σ → σ} {ready : σ → Prop} {accounts : σ → List Account}
  {st : ServiceState σ}

/-- A registration opens the account of the user that it is answered with. -/
theorem register (hs : s.store.KeepsAccounts change ready accounts) (hst : ready st.world.store)
    (raw password : String) :
    Ensures (s.register raw password) st
      (fun u st' => u.MadeFor st.pool.hasher raw password
        ∧ (∀ a ∈ accounts st.world.store, a.address ≠ u.email.text)
        ∧ accounts st'.world.store = accounts st.world.store ++ [.ofUser u])
      (fun _ st' => accounts st'.world.store = accounts st.world.store) := by
  refine Ensures.bind_mono Service.requireEmail_ensures (fun _ _ h => congrArg accounts h.store) ?_
  rintro email st₀ ⟨rfl, hemail⟩
  split
  · rename_i accepted haccepted
    refine Ensures.bind_mono Serve.hash_ensures (fun _ _ h => congrArg accounts h.store) ?_
    rintro (fault | text) st₁ ⟨h₁, hhash⟩
    · exact Service.internal_ensures fun _ h => congrArg accounts (h₁.trans h).store
    refine Ensures.get_bind (Ensures.bind_mono Serve.register?_ensures
      (fun _ _ h => congrArg accounts (h₁.trans h).store) ?_)
    rintro user st₂ ⟨h₂, huser, htext⟩
    have hmade : user.MadeFor st₀.pool.hasher raw password := by
      obtain ⟨hnonempty, salt, hsalt, hencoded⟩ := hhash text rfl
      rw [Password.text_of_ofText? haccepted] at hnonempty hencoded
      exact ⟨huser ▸ hemail, hnonempty, salt, hsalt, htext.trans hencoded⟩
    have h₂' : st₂.world.store = st₀.world.store := (h₁.trans h₂).store
    rw [← h₂'] at hst ⊢
    refine Ensures.bind_mono (Service.bounded_ensures (hs.createUser user hst)) ?_ ?_
    · rintro e st₃ ⟨f, w, hsame, hw, -⟩
      exact (congrArg accounts hw).trans hsame
    · rintro r _ ⟨w, rfl, hr⟩
      split
      · obtain ⟨rfl, hnew, hadded⟩ := hr
        refine Serve.report_bind fun st₃ h₃ => ⟨hmade, hnew, ?_⟩
        exact (congrArg accounts h₃.store).trans hadded
      · exact Serve.report_bind fun _ h => (congrArg accounts h.store).trans hr
      · exact Service.internal_ensures fun _ h => (congrArg accounts h.store).trans hr
  · exact rfl

/-- A call of the store of sessions that keeps the accounts does so inside the service. -/
theorem boundedSession {α : Type} {operation : String} {a : Act σ SessionFault α}
    (h : Spares (accounts ·.store) a st.world) :
    Spares (accounts ·.world.store) (s.boundedSession operation a) st := by
  refine (Service.boundedSession_ensures h).mono ?_ ?_
  · rintro _ _ ⟨w, rfl, hw⟩
    exact hw
  · rintro _ _ ⟨_, w, hw, hst, -⟩
    exact (congrArg accounts hst).trans hw

theorem openSession (hs : s.store.KeepsAccounts change ready accounts)
    (hst : ready st.world.store) (user : User) (client : Client) :
    Ensures (s.openSession user client) st
      (fun tokens st' => accounts st'.world.store = accounts st.world.store
        ∧ tokens.userId = user.id)
      (fun _ st' => accounts st'.world.store = accounts st.world.store) := by
  refine Ensures.bind_mono Service.newRefreshSecret_ensures
    (fun _ _ h => congrArg accounts h.1.store) ?_
  rintro secret st₁ ⟨h₁, -⟩
  refine Ensures.bind_mono Service.expiryAfter_ensures
    (fun _ _ h => congrArg accounts (h₁.trans h.1).store) ?_
  rintro expires st₁ ⟨rfl, -⟩
  refine Ensures.bind_mono Service.issue_ensures
    (fun _ _ h => congrArg accounts (h₁.trans h.1).store) ?_
  rintro tokens st₁ ⟨rfl, huser, -⟩
  rw [← h₁.store] at hst ⊢
  refine Ensures.bind (boundedSession (hs.createSession _ _ _ _ _ hst)) fun id st₂ h₂ => ?_
  exact Serve.report_bind fun st₃ h₃ => ⟨(congrArg accounts h₃.store).trans h₂, huser⟩

/-- A user is let in by the account with the address and by its hash, and no account is touched. -/
theorem login (hs : s.store.KeepsAccounts change ready accounts) (hst : ready st.world.store)
    (raw password : String) (client : Client) :
    Ensures (s.login raw password client) st
      (fun tokens st' => accounts st'.world.store = accounts st.world.store
        ∧ ∃ email a, Email.parse raw = .ok email
          ∧ accountAt (accounts st.world.store) email.text = some a
          ∧ Hasher.verify password a.passwordHash = .ok () ∧ tokens.userId = a.id)
      (fun _ st' => accounts st'.world.store = accounts st.world.store) := by
  refine Ensures.bind_mono Service.requireEmail_ensures (fun _ _ h => congrArg accounts h.store) ?_
  rintro email st₀ ⟨rfl, hemail⟩
  show Ensures (if password.isEmpty then _ else _) _ _ _
  split
  · exact rfl
  refine Ensures.bind_mono (Service.bounded_ensures
    (hs.findUserByEmail hst (Email.parse_text hemail))) ?_ ?_
  · rintro e st₁ ⟨f, w, hsame, hw, -⟩
    exact (congrArg accounts hw).trans hsame
  rintro (fault | user?) _ ⟨w, rfl, hr⟩
  · exact Service.internal_ensures fun _ h => (congrArg accounts h.store).trans hr
  obtain ⟨hready, hsame, hfound⟩ := hr
  cases user? with
  | none =>
    refine Ensures.bind_mono Service.equalizeUnknownUser_quiet
      (fun _ _ h => (congrArg accounts h.store).trans hsame) fun _ st₂ h₂ => ?_
    exact Serve.report_bind fun _ h => (congrArg accounts (h₂.trans h).store).trans hsame
  | some user =>
    refine Ensures.bind_mono Service.authenticate_ensures
      (fun _ _ h => (congrArg accounts h.store).trans hsame) ?_
    rintro _ st₁ ⟨h₁, hverify⟩
    have hready₁ : ready st₁.world.store := by
      rw [h₁.store]
      exact hready
    have hsame₁ := (congrArg accounts h₁.store).trans hsame
    refine (hs.openSession hready₁ user client).mono ?_ fun _ _ h => h.trans hsame₁
    rintro tokens st₂ ⟨h₂, huser⟩
    exact ⟨h₂.trans hsame₁, email, .ofUser user, hemail, hfound.symm, hverify, huser⟩

/-- A session is replaced without a look at the accounts. -/
theorem refresh (hs : s.store.KeepsAccounts change ready accounts) (hst : ready st.world.store)
    (raw : String) (client : Client) :
    Spares (accounts ·.world.store) (s.refresh raw client) st := by
  refine Ensures.bind_mono Service.requireArgument_ensures (fun _ _ h => h ▸ rfl) ?_
  rintro secret st₀ ⟨rfl, -⟩
  refine Ensures.bind_mono Service.newRefreshSecret_ensures
    (fun _ _ h => congrArg accounts h.1.store) ?_
  rintro newSecret st₁ ⟨h₁, -⟩
  refine Ensures.bind_mono Service.expiryAfter_ensures
    (fun _ _ h => congrArg accounts (h₁.trans h.1).store) ?_
  rintro expires st₁ ⟨rfl, -⟩
  have hready : ready st₁.world.store := by
    rw [h₁.store]
    exact hst
  have hsame : accounts st₁.world.store = accounts st₀.world.store := congrArg accounts h₁.store
  refine Ensures.bind_mono (boundedSession (hs.rotateSession _ _ _ _ hready))
    (fun _ _ h => h.trans hsame) fun rotated st₂ h₂ => ?_
  refine Serve.report_bind fun st₃ h₃ => Service.issue_ensures.mono ?_ ?_
  · rintro _ _ ⟨rfl, -⟩
    exact (congrArg accounts h₃.store).trans (h₂.trans hsame)
  · rintro _ _ ⟨h₄, -⟩
    exact (congrArg accounts (h₃.trans h₄).store).trans (h₂.trans hsame)

theorem validate (raw : String) :
    Spares (accounts ·.world.store) (s.validate raw) st := by
  refine Ensures.bind_mono Service.requireArgument_ensures (fun _ _ h => h ▸ rfl) ?_
  rintro token st₀ ⟨rfl, -⟩
  refine Ensures.get_bind ?_
  split
  · rfl
  · rfl
  · exact Serve.report_bind fun _ h => congrArg accounts h.store

theorem logout (hs : s.store.KeepsAccounts change ready accounts) (hst : ready st.world.store)
    (raw : String) :
    Spares (accounts ·.world.store) (s.logout raw) st := by
  refine Ensures.bind_mono Service.requireArgument_ensures (fun _ _ h => h ▸ rfl) ?_
  rintro secret st₀ ⟨rfl, -⟩
  refine Ensures.bind (boundedSession (hs.revokeSession secret hst)) fun _ st₁ h₁ => ?_
  exact Serve.report_ensures fun st₂ h₂ => (congrArg accounts h₂.store).trans h₁

theorem logoutAll (hs : s.store.KeepsAccounts change ready accounts) (hst : ready st.world.store)
    (user : UserId) :
    Spares (accounts ·.world.store) (s.logoutAll user) st := by
  refine Ensures.bind (boundedSession (hs.revokeAllSessions user hst)) fun n st₁ h₁ => ?_
  exact Serve.report_bind fun st₂ h₂ => (congrArg accounts h₂.store).trans h₁

/-- **No request does anything else to the accounts.** -/
theorem serve (hs : s.store.KeepsAccounts change ready accounts) (hst : ready st.world.store)
    (q : Request) :
    Ensures (s.serve q) st
      (fun x st' => AccountStep st.pool.hasher (accounts st.world.store) ⟨q, .ok x⟩
        (accounts st'.world.store))
      (fun e st' => AccountStep st.pool.hasher (accounts st.world.store) ⟨q, .error e⟩
        (accounts st'.world.store)) := by
  have hkept : ∀ (x : Exchange) (st' : ServiceState σ), x.account? = none →
      accounts st'.world.store = accounts st.world.store →
      AccountStep st.pool.hasher (accounts st.world.store) x (accounts st'.world.store) := by
    intro x st' hx h
    rw [h]
    exact .kept hx
  have hfailed : ∀ (e : Failure AuthFault) (st' : ServiceState σ),
      accounts st'.world.store = accounts st.world.store →
      AccountStep st.pool.hasher (accounts st.world.store) ⟨q, .error e⟩
        (accounts st'.world.store) := by
    intro e st' h
    exact hkept _ st' (by cases q <;> rfl) h
  cases q with
  | register raw password =>
    refine (hs.register hst raw password).mono ?_ hfailed
    rintro u st' ⟨hmade, hnew, hadded⟩
    rw [hadded]
    exact .opened hmade hnew
  | login raw password client =>
    exact (hs.login hst raw password client).mono (fun _ _ h => hkept _ _ rfl h.1) hfailed
  | refresh raw client =>
    exact (hs.refresh hst raw client).mono (fun _ _ h => hkept _ _ rfl h) hfailed
  | validate raw => exact (validate raw).mono (fun _ _ h => hkept _ _ rfl h) hfailed
  | logout raw => exact (hs.logout hst raw).mono (fun _ _ h => hkept _ _ rfl h) hfailed
  | logoutAll user => exact (hs.logoutAll hst user).mono (fun _ _ h => hkept _ _ rfl h) hfailed

/-- An exchange under any circumstances. -/
theorem visit (hs : s.store.KeepsAccounts change ready accounts) (o : Occasion τ)
    (st : ServiceState σ) :
    AccountStep st.pool.hasher (accounts st.world.store) (s.visit change o st).1
      (accounts (s.visit change o st).2.world.store) := by
  obtain ⟨hready, hsame⟩ := hs.met o.condition st.world.store
  have hserve : Ensures (s.serve o.request) (st.meet change o) _ _ := hs.serve hready o.request
  have h := hserve.ending
    (P := fun r (st' : ServiceState σ) => AccountStep st.pool.hasher
      (accounts (change o.condition st.world.store)) ⟨o.request, r⟩ (accounts st'.world.store))
  rw [hsame] at h
  exact h

end Store.KeepsAccounts

/-! ## Runs -/

/-- **A history that accounts for the accounts**: they are those that the registrations in it have
opened, and no two of them have one address. -/
structure History (h : Hasher) (xs : List Exchange) (accounts : List Account) : Prop where
  opened : accounts = xs.filterMap Exchange.account?
  made : ∀ raw password u, (⟨.register raw password, .ok u⟩ : Exchange) ∈ xs →
    u.MadeFor h raw password
  addresses : (accounts.map (·.address)).Nodup

/-- Some registration in a history has succeeded with this password, for the address in this text, and
has been answered with this user. -/
def Registered (xs : List Exchange) (raw password : String) (u : UserId) : Prop :=
  ∃ raw' user, (⟨.register raw' password, .ok user⟩ : Exchange) ∈ xs
    ∧ Email.parse raw' = Email.parse raw ∧ user.id = u

/-- What has opened an account is a registration. -/
theorem Exchange.eq_of_account? {x : Exchange} {a : Account} (h : x.account? = some a) :
    ∃ raw password u, x = ⟨.register raw password, .ok u⟩ ∧ a = .ofUser u := by
  unfold Exchange.account? at h
  split at h
  · exact ⟨_, _, _, rfl, (Option.some.inj h).symm⟩
  · cases h

namespace History

variable {h : Hasher} {xs : List Exchange} {x : Exchange} {accounts accounts' : List Account}

theorem empty (h : Hasher) : History h [] [] := ⟨rfl, nofun, List.nodup_nil⟩

/-- One more exchange. -/
theorem step (hist : History h xs accounts) (hx : AccountStep h accounts x accounts') :
    History h (xs ++ [x]) accounts' := by
  cases hx with
  | @opened raw password u hmade hnew =>
    refine ⟨?_, ?_, Database.nodup_map_snoc hist.addresses hnew⟩
    · rw [List.filterMap_append, ← hist.opened]
      rfl
    · intro raw' password' u' hmem
      rcases List.mem_append.mp hmem with hmem | hmem
      · exact hist.made raw' password' u' hmem
      · cases List.mem_singleton.mp hmem
        exact hmade
  | kept hnone =>
    refine ⟨?_, ?_, hist.addresses⟩
    · rw [List.filterMap_append, ← hist.opened, List.filterMap_cons_none hnone,
        List.filterMap_nil, List.append_nil]
    · intro raw' password' u' hmem
      rcases List.mem_append.mp hmem with hmem | hmem
      · exact hist.made raw' password' u' hmem
      · rw [← List.mem_singleton.mp hmem] at hnone
        cases hnone

/-- The account of a registration is found under its address. -/
theorem accountAt_eq (hist : History h xs accounts) {raw password : String} {u : User}
    (hmem : (⟨.register raw password, .ok u⟩ : Exchange) ∈ xs) :
    accountAt accounts u.email.text = some (.ofUser u) := by
  have ha : Account.ofUser u ∈ accounts := by
    rw [hist.opened]
    exact List.mem_filterMap.mpr ⟨_, hmem, rfl⟩
  exact Database.find?_eq_some hist.addresses ha

/-- An account that is found under an address has been opened by a registration for it. -/
theorem exists_of_accountAt (hist : History h xs accounts) {address : String} {a : Account}
    (ha : accountAt accounts address = some a) :
    ∃ raw password u, (⟨.register raw password, .ok u⟩ : Exchange) ∈ xs ∧ a = .ofUser u
      ∧ u.email.text = address := by
  have hmem := List.mem_of_find?_eq_some ha
  rw [hist.opened] at hmem
  obtain ⟨x, hx, hxa⟩ := List.mem_filterMap.mp hmem
  obtain ⟨raw, password, u, rfl, rfl⟩ := Exchange.eq_of_account? hxa
  exact ⟨raw, password, u, hx, rfl, Database.eq_of_find? (f := Account.address) ha⟩

/-- An account whose hash is one of the password has been opened by a registration with it: what is
checked is the digest that was made there. -/
theorem registered_of_verify (hist : History h xs accounts) (hfits : h.cost.Fits)
    {raw password : String} {email : Email} {a : Account}
    (hseparates : ∀ raw' password' user,
      (⟨.register raw' password', .ok user⟩ : Exchange) ∈ xs → h.Separates password' password)
    (hemail : Email.parse raw = .ok email) (ha : accountAt accounts email.text = some a)
    (hverify : Hasher.verify password a.passwordHash = .ok ()) :
    Registered xs raw password a.id := by
  obtain ⟨raw', password', user, hmem, rfl, haddress⟩ := hist.exists_of_accountAt ha
  have hmade := hist.made raw' password' user hmem
  obtain ⟨salt, hsalt, hhash⟩ := hmade.hash
  have hpassword : password = password' := by
    have hequal : Hasher.verify password user.passwordHash = .ok () := hverify
    rw [hhash, Hasher.verify_encode hfits hsalt] at hequal
    split at hequal
    · exact hseparates raw' password' user hmem salt hsalt ‹_›
    · cases hequal
  have hsameEmail : user.email = email := by
    obtain ⟨text⟩ := email
    exact congrArg Email.mk haddress
  rw [hpassword]
  exact ⟨raw', user, hmem, by rw [hmade.address, hemail, hsameEmail], rfl⟩

/-- A registration has left an account for its address, with a hash of its password. -/
theorem account_of_registered (hist : History h xs accounts) (hfits : h.cost.Fits)
    {raw password : String} {u : UserId} (hregistered : Registered xs raw password u) :
    ∃ email a, Email.parse raw = .ok email ∧ password.isEmpty = false
      ∧ accountAt accounts email.text = some a
      ∧ Hasher.verify password a.passwordHash = .ok () ∧ a.id = u := by
  obtain ⟨raw', user, hmem, hraw, rfl⟩ := hregistered
  have hmade := hist.made raw' password user hmem
  obtain ⟨salt, hsalt, hhash⟩ := hmade.hash
  refine ⟨user.email, .ofUser user, hraw ▸ hmade.address, hmade.nonempty, hist.accountAt_eq hmem, ?_,
    rfl⟩
  show Hasher.verify password user.passwordHash = .ok ()
  rw [hhash, Hasher.verify_encode hfits hsalt, if_pos rfl]

end History

/-! ## Agreement -/

/-- **Login and registration agree** in all runs from a state. In circumstances that are fair, a login is
answered with tokens for a user exactly if a registration before it, for the same address and with the
same password, was answered with that user. What happened in between is of no account, nor are the
circumstances of any request before. -/
def Service.LoginAgrees (s : Service σ) (change : τ → σ → σ) (start : ServiceState σ)
    (fair : Occasion τ → ServiceState σ → Prop) : Prop :=
  ∀ (before : List (Occasion τ)) (o : Occasion τ) (raw password : String) (client : Client),
    let history := s.run change before start
    let x := (s.visit change { o with request := .login raw password client } history.2).1
    fair o history.2 →
    -- the hash function tells the passwords of the run apart
    (∀ raw' password' user, (⟨.register raw' password', .ok user⟩ : Exchange) ∈ history.1 →
      start.pool.hasher.Separates password' password) →
    ∀ u, (∃ tokens, x = ⟨.login raw password client, .ok tokens⟩ ∧ tokens.userId = u)
      ↔ Registered history.1 raw password u

namespace Store.KeepsAccounts

variable {s : Service σ} {change : τ → σ → σ} {ready : σ → Prop} {accounts : σ → List Account}

/-- The accounts behind a run from a store without any, and the pool. -/
theorem run (hs : s.store.KeepsAccounts change ready accounts) (before : List (Occasion τ))
    {start : ServiceState σ} (hstart : accounts start.world.store = []) :
    (s.run change before start).2.pool = start.pool
      ∧ History start.pool.hasher (s.run change before start).1
          (accounts (s.run change before start).2.world.store) := by
  refine Service.run_induction (s := s) (P := fun xs st => st.pool = start.pool
    ∧ History start.pool.hasher xs (accounts st.world.store)) ?_ before [] start ⟨rfl, ?_⟩
  · rintro xs o st ⟨hpool, hist⟩
    refine ⟨(Service.visit_pool change o st).trans hpool, hist.step ?_⟩
    rw [← hpool]
    exact hs.visit o st
  · rw [hstart]
    exact .empty _

/-- **Login and registration agree**, if in fair circumstances a login lets in whoever knows the
password of the account. -/
theorem loginAgrees (hs : s.store.KeepsAccounts change ready accounts) {start : ServiceState σ}
    {fair : Occasion τ → ServiceState σ → Prop} (hstart : accounts start.world.store = [])
    (hfits : start.pool.hasher.cost.Fits)
    (hfair : ∀ (o : Occasion τ) (st : ServiceState σ) (raw password : String) (client : Client)
      (email : Email) (a : Account), fair o st → st.pool = start.pool →
      Email.parse raw = .ok email → password.isEmpty = false →
      accountAt (accounts (change o.condition st.world.store)) email.text = some a →
      Hasher.verify password a.passwordHash = .ok () →
      Ensures (s.login raw password client) (st.meet change o)
        (fun tokens _ => tokens.userId = a.id) (fun _ _ => False)) :
    s.LoginAgrees change start fair := by
  intro before o raw password client history x ho hseparates u
  obtain ⟨hpool, hist⟩ := hs.run before hstart
  obtain ⟨hready, hsame⟩ := hs.met o.condition history.2.world.store
  have hx : x = ⟨.login raw password client,
      (s.login raw password client (history.2.meet change o)).1⟩ := rfl
  constructor
  · rintro ⟨tokens, htokens, rfl⟩
    rw [hx] at htokens
    have hok := eq_of_heq (Exchange.mk.inj htokens).2
    have hlogin : Ensures (s.login raw password client) (history.2.meet change o) _ _ :=
      hs.login hready raw password client
    obtain ⟨-, email, a, hemail, ha, hverify, huser⟩ := hlogin.of_ok hok
    have ha' : accountAt (accounts history.2.world.store) email.text = some a := by
      rw [← hsame]
      exact ha
    rw [huser]
    exact hist.registered_of_verify hfits hseparates hemail ha' hverify
  · intro hregistered
    obtain ⟨email, a, hemail, hnonempty, ha, hverify, rfl⟩ :=
      hist.account_of_registered hfits hregistered
    rw [← hsame] at ha
    have hdone := hfair o history.2 raw password client email a ho hpool hemail hnonempty ha hverify
    obtain ⟨tokens, htokens, huser⟩ := hdone.exists_ok
    refine ⟨tokens, ?_, huser⟩
    rw [hx, htokens]
    rfl

end Store.KeepsAccounts

end SessionAuth
