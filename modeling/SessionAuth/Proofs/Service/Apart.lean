import SessionAuth.Proofs.Service.AppendOnly
import SessionAuth.Proofs.Service.Calls
import SessionAuth.Proofs.Service.Login
import SessionAuth.Proofs.Store.Owners

/-!
Users do not affect each other.

A request acts for one user at most, and says itself for whom: by an address and a password that fits, by
a secret, or by an identifier (`Request.ActsFor`). Which calls a request makes is known, and so is whose
sessions each call touches; put together, no request touches the sessions of anybody but the one it
acts for, on either store and however it ends (`users_stay_apart`).
-/

set_option autoImplicit false

namespace SessionAuth

open Database (Condition SessionRow Tables sessionRows)

variable {σ τ ρ : Type}

/-! ## Requests and users -/

/-- **For whom a request acts**, going by the accounts and the sessions there are: for the user whose
account has the address and the password of a login, for the user who owns a row with the digest of the
secret that is presented, or for the user who is named. A registration acts for nobody who is there, and
neither does looking at an access token. -/
def Request.ActsFor (accounts : List Account) (owner : ρ → UserId) (digest : ρ → Bytes)
    (rows : List ρ) : Request → UserId → Prop
  | .register _ _, _ | .validate _, _ => False
  | .login raw password _, u => ∃ email a, Email.parse raw = .ok email
    ∧ accountAt accounts email.text = some a ∧ Hasher.verify password a.passwordHash = .ok ()
    ∧ a.id = u
  | .refresh raw _, u | .logout raw, u => ∃ secret, ∃ row ∈ rows, SessionAuth.Presents raw secret
    ∧ digest row = RefreshSecret.digest secret ∧ owner row = u
  | .logoutAll v, u => v = u

/-- **A request that is confined**: it leaves the sessions as they are, or touches those of the one user
it acts for. -/
def Request.Confined (q : Request) (accounts : List Account) (owner : ρ → UserId)
    (digest : ρ → Bytes) (rows rows' : List ρ) : Prop :=
  rows' = rows ∨ ∃ u, q.ActsFor accounts owner digest rows u ∧ OnlyOf owner u rows rows'

/-! ## From calls to requests -/

section Confined

variable {store : Store σ} {change : τ → σ → σ} {ready : σ → Prop} {sessions : σ → List ρ}
  {owner : ρ → UserId} {digest : ρ → Bytes} {distinct : List ρ → Prop}
  {accounts : σ → List Account}

/-- A secret is presented: its holder is acted for. -/
theorem OnlyOfHolder.confined {q : Request} {raw secret : String} {as : List Account}
    {rows rows' : List ρ} (h : OnlyOfHolder owner digest secret rows rows')
    (hsecret : Presents raw secret)
    (hq : ∀ u, (∃ secret, ∃ row ∈ rows, Presents raw secret
      ∧ digest row = RefreshSecret.digest secret ∧ owner row = u) →
      q.ActsFor as owner digest rows u) :
    q.Confined as owner digest rows rows' := by
  rcases h with h | ⟨row, hrow, hdigest, honly⟩
  · exact Or.inl h
  · exact Or.inr ⟨owner row, hq _ ⟨secret, row, hrow, hsecret, hdigest, rfl⟩, honly⟩

/-- **Whatever calls a request makes, it is confined**, if the store confines its calls and finds a user by
the account. -/
theorem Request.Leaves.confined {q : Request} {w : World σ} {m : σ} (h : q.Leaves store w m)
    (hstore : store.Confines ready sessions owner digest distinct)
    (haccounts : store.KeepsAccounts change ready accounts) (hready : ready w.store)
    (hdistinct : distinct (sessions w.store)) :
    q.Confined (accounts w.store) owner digest (sessions w.store) (sessions m) := by
  cases h with
  | untouched => exact Or.inl rfl
  | created hw _ =>
    rw [← hw.store] at hready ⊢
    exact Or.inl (hstore.createUser _ hready).state
  | lookedUp hw _ =>
    rw [← hw.store] at hready ⊢
    exact Or.inl (hstore.findUserByEmail _ hready).state
  | @opened raw password secret client email user expires w₁ w₂ hw hemail hfound hverify hbetween =>
    rw [← hw.store] at hready ⊢
    have hsame := (hstore.findUserByEmail email hready).state
    obtain ⟨hready₂, -, huser⟩ :=
      (haccounts.findUserByEmail hready (Email.parse_text hemail)).of_ok hfound
    rw [← hbetween.store] at hready₂ hsame
    have honly := (hstore.createSession user.id secret expires client hready₂).state
    rw [hsame] at honly
    exact Or.inr ⟨user.id, ⟨email, .ofUser user, hemail, huser.symm, hverify, rfl⟩, honly⟩
  | rotated hw hsecret =>
    rw [← hw.store] at hready hdistinct ⊢
    exact (hstore.rotateSession _ _ _ _ hready hdistinct).state.confined hsecret fun _ hu => hu
  | ended hw hsecret =>
    rw [← hw.store] at hready hdistinct ⊢
    exact (hstore.revokeSession _ hready hdistinct).state.confined hsecret fun _ hu => hu
  | endedAll hw =>
    rw [← hw.store] at hready ⊢
    exact Or.inr ⟨_, rfl, (hstore.revokeAllSessions _ hready).state⟩

/-- A request that is served under any circumstances is confined. -/
theorem Store.Confines.visit {s : Service σ}
    (hstore : s.store.Confines ready sessions owner digest distinct)
    (haccounts : s.store.KeepsAccounts change ready accounts)
    (hmet : ∀ c m, sessions (change c m) = sessions m) (o : Occasion τ) (st : ServiceState σ)
    (hdistinct : distinct (sessions st.world.store)) :
    o.request.Confined (accounts st.world.store) owner digest (sessions st.world.store)
      (sessions (s.visit change o st).2.world.store) := by
  obtain ⟨hready, hsame⟩ := haccounts.met o.condition st.world.store
  rw [← hmet o.condition] at hdistinct
  have h := (Service.visit_leaves change o st).confined hstore haccounts hready hdistinct
  rw [show (st.meet change o).world.store = change o.condition st.world.store from rfl, hmet, hsame]
    at h
  exact h

end Confined

/-! ## Users

Users are added and never changed. -/

/-- **Every statement leaves the rows of the users in place.** -/
theorem Database.Tables.usersStay :
    Database.StatementsMoveAlong fun t t' => t.users <+: t'.users where
  refl _ := List.prefix_rfl
  trans _ _ _ := List.IsPrefix.trans
  run {t t' now s o} hrun := by
    cases s with
    | insertUser u =>
      rw [(Database.insertUser_ok (Database.inserted hrun)).1]
      exact List.prefix_append _ _
    | insertSession s =>
      have husers : t'.users = t.users := Database.insertSession_users (Database.inserted hrun)
      exact husers ▸ List.prefix_rfl
    | _ =>
      obtain rfl := congrArg Prod.snd (Except.ok.inj hrun)
      exact List.prefix_rfl

/-- **Every call of the store in memory leaves the users in place.** -/
theorem MemoryStore.usersStay : store.MovesAlong fun m m' => m.users <+: m'.users where
  refl _ := List.prefix_rfl
  trans _ _ _ := List.IsPrefix.trans
  createUser u := fun w => by
    refine answering_ensures (fun _ => List.prefix_rfl) (fun _ _ => List.prefix_rfl) fun _ => ?_
    refine Act.store_bind ?_
    split
    · exact List.prefix_rfl
    · exact Act.modifyStore_bind (List.prefix_append _ _)
  findUserByEmail email := fun w =>
    answering_ensures (fun _ => List.prefix_rfl) (fun _ _ => List.prefix_rfl)
      fun _ => Act.store_bind List.prefix_rfl
  createSession u secret expiresAt client rotatedFrom := fun w =>
    answering_ensures (fun _ => List.prefix_rfl) (fun _ _ => List.prefix_rfl)
      fun _ => Act.store_bind (Act.now_bind (Act.modifyStore_bind List.prefix_rfl))
  rotateSession oldSecret newSecret expiresAt client := fun w => by
    refine answering_ensures (fun _ => List.prefix_rfl) (fun _ _ => List.prefix_rfl) fun _ => ?_
    refine Act.store_bind (Act.now_bind ?_)
    split
    · exact List.prefix_rfl
    split
    · exact List.prefix_rfl
    · exact List.prefix_rfl
    split
    · exact List.prefix_rfl
    · exact Act.modifyStore_bind List.prefix_rfl
  revokeSession secret := fun w => by
    refine answering_ensures (fun _ => List.prefix_rfl) (fun _ _ => List.prefix_rfl) fun _ => ?_
    refine Act.store_bind (Act.now_bind ?_)
    dsimp only
    split
    · exact List.prefix_rfl
    · exact List.prefix_rfl
  revokeAllSessions u := fun w =>
    answering_ensures (fun _ => List.prefix_rfl) (fun _ _ => List.prefix_rfl)
      fun _ => Act.store_bind (Act.now_bind (Act.modifyStore_bind List.prefix_rfl))

/-! ## The whole -/

/-- **Users do not affect each other.** Whatever is asked of the service and whatever the circumstances,
on the tables, whose rows are told apart by identifier and by digest, and in memory: the sessions are as
they were, or those of the one user are touched whom the request acts for, and the users who were there
are still there as they were. A registration and a look at an access token act for nobody and so touch no
session; an access token is looked at without the store. -/
theorem users_stay_apart :
    (∀ (s : TableService) (o : Occasion Condition) (st : ServiceState Database),
      (st.tables.sessions.map (·.id)).Nodup → (st.tables.sessions.map (·.digest)).Nodup →
      o.request.Confined st.world.store.accounts SessionRow.userId SessionRow.digest
          st.tables.sessions (s.visit o st).2.tables.sessions
        ∧ st.tables.users <+: (s.visit o st).2.tables.users)
    ∧ (∀ (signer : TokenSigner) (settings : AuthSettings) (o : Occasion Misbehaviours)
        (st : ServiceState MemoryStore),
      let st' := ((memoryService signer settings).visit MemoryStore.meet o st).2
      o.request.Confined st.world.store.accounts Session.userId Session.digest
          st.world.store.sessions st'.world.store.sessions
        ∧ st.world.store.users <+: st'.world.store.users)
    ∧ ∀ (σ : Type) (s : Service σ) (other : Store σ) (token : String) (st : ServiceState σ),
      ({ s with store := other } : Service σ).validate token = s.validate token
        ∧ (s.validate token st).2.world.store = st.world.store := by
  refine ⟨fun s o st hids hdigests => ⟨?_, ?_⟩, fun signer settings o st => ⟨?_, ?_⟩,
    fun σ s other token st => ⟨rfl, ?_⟩⟩
  · exact Store.Confines.visit (s := s.service) (Relational.confines s.lockTimeout)
      (Relational.keepsAccounts s.lockTimeout) (fun _ _ => rfl) o st ⟨hids, hdigests⟩
  · exact TableService.visit_moves Tables.usersStay o st
  · exact Store.Confines.visit (s := memoryService signer settings) MemoryStore.confines
      MemoryStore.keepsAccounts (fun _ _ => rfl) o st trivial
  · have hmet : ∀ (c : Misbehaviours) (m : MemoryStore), m.users <+: (m.meet c).users :=
      fun _ _ => List.prefix_rfl
    exact (Service.visit_moves (s := memoryService signer settings) MemoryStore.usersStay hmet
      o st).store
  · exact (Service.validate_untouched token).state

/-! ### Two users, one of whom leaves -/

/-- An open session of somebody else, for the secret `def`. -/
def nextDoorRow : SessionRow :=
  { loneRow with
    id := ⟨.ofNat 3⟩
    userId := ⟨.ofNat 4⟩
    digest := RefreshSecret.digest "def" }

/-- A service with the sessions of two users. -/
@[irreducible]
def shared : ServiceState Database where
  world :=
    { now := .epoch
      random := ⟨.ofSeed 1, none⟩
      events := []
      store := { tables := { sessions := [loneRow, nextDoorRow] } } }
  pool := lightPool
  dummyHash := none

theorem shared_sessions : shared.tables.sessions = [loneRow, nextDoorRow] := by
  unfold shared
  rfl

/-- The secrets of the two are told apart. -/
theorem loneRow_ne_nextDoorRow : loneRow.digest ≠ nextDoorRow.digest := by
  show RefreshSecret.digest "abc" ≠ RefreshSecret.digest "def"
  decide +kernel

theorem users_stay_apart_shared :
    (shared.tables.sessions.map (·.id)).Nodup ∧ (shared.tables.sessions.map (·.digest)).Nodup
      ∧ (loneService.visit loneLogout shared).2.tables.sessions[1]? = some nextDoorRow := by
  have hids : (shared.tables.sessions.map (·.id)).Nodup := by
    rw [shared_sessions]
    decide
  have hdigests : (shared.tables.sessions.map (·.digest)).Nodup := by
    rw [shared_sessions]
    exact List.nodup_cons.mpr ⟨fun h => loneRow_ne_nextDoorRow (List.mem_singleton.mp h),
      List.nodup_singleton _⟩
  have hnextDoor : shared.tables.sessions[1]? = some nextDoorRow := by
    rw [shared_sessions]
    rfl
  refine ⟨hids, hdigests, ?_⟩
  rcases (users_stay_apart.1 loneService loneLogout shared hids hdigests).1 with hsame | ⟨u, hu, honly⟩
  · rw [hsame]
    exact hnextDoor
  · -- whoever is acted for holds the secret `abc`, and that is not the user next door
    obtain ⟨secret, row, hrow, hsecret, hdigest, rfl⟩ := hu
    have habc : Presents " abc\n" "abc" := by
      unfold Presents
      rfl
    obtain rfl : "abc" = secret := Except.ok.inj (habc.symm.trans hsecret)
    have hother : nextDoorRow.userId ≠ row.userId := by
      rw [shared_sessions] at hrow
      rcases List.mem_cons.mp hrow with rfl | hrow
      · decide
      · rw [List.mem_singleton.mp hrow] at hdigest
        exact absurd hdigest.symm loneRow_ne_nextDoorRow
    obtain ⟨row', hrow', -, hstays⟩ := honly.kept 1 nextDoorRow hnextDoor
    rw [hrow', hstays hother]

end SessionAuth
