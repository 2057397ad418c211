import SessionAuth.Proofs.Account.Email
import SessionAuth.Proofs.Result
import SessionAuth.Proofs.Service.Effect
import SessionAuth.Proofs.Store.Memory

/-!
The accounts of a store.

What a login goes by is an identifier, an address and the hash of a password. `KeepsAccounts` says what
is asked of a store as far as these are concerned; it is the same for every store, so that what
follows from it is proved once. Both stores keep accounts. That in the tables a user is read back
with the address that was stored is where the normal form of addresses comes in.
-/

set_option autoImplicit false

namespace SessionAuth

open Database (Condition Ready Within SessionRow UserRow Tables)

variable {σ τ : Type}

/-! ## Accounts -/

/-- What a store keeps of a user for the next login. -/
structure Account where
  id : UserId
  address : String
  passwordHash : String

/-- The account of a user. -/
def Account.ofUser (u : User) : Account := ⟨u.id, u.email.text, u.passwordHash⟩

/-- The account with an address. -/
def accountAt (accounts : List Account) (address : String) : Option Account :=
  accounts.find? (·.address == address)

/-- **A store that keeps accounts.** A user is added whose address is not taken, or nothing happens; a
user who is looked up is the one that has been added; and nothing else touches the accounts. A store
that has met the conditions of a request is ready for it, and still is when a user has been looked
up: that is the only call behind which a request makes another one. -/
structure Store.KeepsAccounts (store : Store σ) (change : τ → σ → σ) (ready : σ → Prop)
    (accounts : σ → List Account) : Prop where
  met : ∀ c m, ready (change c m) ∧ accounts (change c m) = accounts m
  createUser : ∀ {w : World σ} (u : User), ready w.store →
    Ensures (store.createUser u) w
      (fun v w' => v = u ∧ (∀ a ∈ accounts w.store, a.address ≠ u.email.text)
        ∧ accounts w'.store = accounts w.store ++ [.ofUser u])
      (fun _ w' => accounts w'.store = accounts w.store)
  findUserByEmail : ∀ {w : World σ} {email : Email}, ready w.store →
    Email.parse email.text = .ok email →
    Ensures (store.findUserByEmail email) w
      (fun r w' => ready w'.store ∧ accounts w'.store = accounts w.store
        ∧ r.map .ofUser = accountAt (accounts w.store) email.text)
      (fun _ w' => accounts w'.store = accounts w.store)
  createSession : ∀ {w : World σ} (u : UserId) (secret : String) (expiresAt : Instant)
    (client : Client) (rotatedFrom : Option SessionId), ready w.store →
    Spares (accounts ·.store) (store.createSession u secret expiresAt client rotatedFrom) w
  rotateSession : ∀ {w : World σ} (oldSecret newSecret : String) (expiresAt : Instant)
    (client : Client), ready w.store →
    Spares (accounts ·.store) (store.rotateSession oldSecret newSecret expiresAt client) w
  revokeSession : ∀ {w : World σ} (secret : String), ready w.store →
    Spares (accounts ·.store) (store.revokeSession secret) w
  revokeAllSessions : ∀ {w : World σ} (u : UserId), ready w.store →
    Spares (accounts ·.store) (store.revokeAllSessions u) w

/-! ## Accounts in the tables -/

/-- The account of a row. -/
def Account.ofRow (row : UserRow) : Account := ⟨row.id, row.email, row.passwordHash⟩

/-- The accounts of a database. -/
def Database.accounts (db : Database) : List Account := db.settled.users.map .ofRow

namespace Relational

variable {w w' : World Database}

theorem accounts_eq_map (h : w.store.Ready) :
    w.store.accounts = w.store.tables.users.map .ofRow := by
  rw [Database.accounts, h.settled]

theorem accounts_of_within (hin : Within w w') (h : w.store.Ready) :
    w'.store.accounts = w'.store.tables.users.map .ofRow := by
  rw [Database.accounts, hin.settled h]

/-- What leaves the rows of the users alone leaves the accounts alone. -/
theorem accounts_same (hin : Within w w') (h : w.store.Ready)
    (husers : w'.store.tables.users = w.store.tables.users) :
    w'.store.accounts = w.store.accounts := by
  rw [accounts_of_within hin h, accounts_eq_map h, husers]

theorem accountAt_map (rows : List UserRow) (address : String) :
    accountAt (rows.map .ofRow) address = (rows.find? (·.email == address)).map .ofRow := by
  rw [accountAt, List.find?_map]
  rfl

/-- A user who is loaded from a row with an address in normal form has the account of the row. -/
theorem ofUser_of_loadRow {row : UserRow} {u : User} {email : Email}
    (hemail : Email.parse email.text = .ok email) (hrow : row.email = email.text)
    (hload : loadRow row = .ok u) : Account.ofUser u = .ofRow row := by
  unfold loadRow at hload
  rw [hrow, hemail] at hload
  obtain rfl := Except.ok.inj hload
  rw [Account.ofUser, Account.ofRow, hrow]

/-- A row is inserted for a user whose address is not taken. -/
theorem createUser_accounts (u : User) (hw : w.store.Ready) :
    Ensures (createUser u) w
      (fun v w' => v = u ∧ (∀ a ∈ w.store.accounts, a.address ≠ u.email.text)
        ∧ w'.store.accounts = w.store.accounts ++ [.ofUser u])
      (fun _ w' => w'.store.accounts = w.store.accounts) := by
  refine (createUser_ensures u hw.faithful).mono ?_ ?_
  · rintro v w' ⟨rfl, hin, hins⟩
    obtain ⟨hrows, -, hemail⟩ := Database.insertUser_ok hins
    refine ⟨rfl, ?_, ?_⟩
    · rw [accounts_eq_map hw]
      intro a ha
      obtain ⟨row, hrow, rfl⟩ := List.mem_map.mp ha
      exact hemail row hrow
    · rw [accounts_of_within hin hw, accounts_eq_map hw, hrows, List.map_append]
      rfl
  · rintro _ w' ⟨hin, ht⟩
    exact accounts_same hin hw (congrArg Tables.users ht)

/-- Whoever is loaded from the row with an address is the user of the account. -/
theorem findUserByEmail_accounts {email : Email} (hw : w.store.Ready)
    (hemail : Email.parse email.text = .ok email) :
    Ensures (findUserByEmail email) w
      (fun r w' => w'.store.Ready ∧ w'.store.accounts = w.store.accounts
        ∧ r.map .ofUser = accountAt w.store.accounts email.text)
      (fun _ w' => w'.store.accounts = w.store.accounts) := by
  refine (findUserByEmail_ensures hw.faithful).mono ?_ ?_
  · rintro r w' ⟨hin, ht, hloads⟩
    refine ⟨⟨hin.atStart.trans hw.idle, hin.faithful hw.faithful⟩,
      accounts_same hin hw (congrArg Tables.users ht), ?_⟩
    rw [accounts_eq_map hw, accountAt_map]
    generalize hfind : w.store.tables.users.find? (·.email == email.text) = found at hloads
    cases hloads with
    | nobody => rfl
    | @user row u hread =>
      have hrow : row.email = email.text := Database.eq_of_find? hfind
      rw [readUser_cells] at hread
      have hload : loadRow row = .ok u := mapError_eq_ok hread
      exact congrArg some (ofUser_of_loadRow hemail hrow hload)
  · rintro _ w' ⟨hin, ht⟩
    exact accounts_same hin hw (congrArg Tables.users ht)

/-- A rotation is done or undone as a whole, and touches no user either way. -/
theorem rotateSession_spares {lockTimeout : Duration} {oldSecret newSecret : String}
    {expires : Instant} {client : Client} (hw : w.store.Ready) :
    Spares (·.store.accounts) (rotateSession lockTimeout oldSecret newSecret expires client) w := by
  refine (rotateSession_ensures hw.idle hw.faithful).mono ?_ ?_
  · rintro _ w' ⟨⟨⟨old, hrot⟩, -⟩, hdone⟩
    show w'.store.accounts = w.store.accounts
    rw [accounts_eq_map hw, Database.accounts, hdone.settled,
      Database.insertSession_users hrot.replaced]
    rfl
  · rintro _ w' hundone
    show w'.store.accounts = w.store.accounts
    rw [accounts_eq_map hw, Database.accounts, hundone.settled]

/-- **The tables keep accounts.** -/
theorem keepsAccounts (lockTimeout : Duration) :
    (store lockTimeout).KeepsAccounts Database.meet Database.Ready Database.accounts where
  met c db := ⟨Database.meet_ready c db, by
    rw [Database.accounts, (Database.meet_ready c db).settled]
    rfl⟩
  createUser u hw := createUser_accounts u hw
  findUserByEmail hw hemail := findUserByEmail_accounts hw hemail
  createSession _ _ _ _ _ hw := by
    refine (createSession_ensures hw.faithful).mono ?_ ?_
    · rintro _ w' ⟨hin, hins⟩
      exact accounts_same hin hw (Database.insertSession_users hins)
    · rintro _ w' ⟨hin, ht⟩
      exact accounts_same hin hw (congrArg Tables.users ht)
  rotateSession _ _ _ _ hw := rotateSession_spares hw
  revokeSession _ hw := by
    refine (revokeSession_ensures hw.faithful).mono ?_ ?_
    · rintro _ w' ⟨-, hin, ht⟩
      exact accounts_same hin hw ((congrArg Tables.users ht).trans (Database.revoke_users _ _))
    · rintro _ w' ⟨hin, ht⟩
      exact accounts_same hin hw (congrArg Tables.users ht)
  revokeAllSessions u hw := by
    refine (revokeAllSessions_ensures hw.faithful).mono ?_ ?_
    · rintro n w' ⟨hin, h⟩
      have ht := congrArg (fun p => p.2.users) h
      exact accounts_same hin hw (ht.symm.trans (Database.revoke_users _ _))
    · rintro _ w' ⟨hin, ht⟩
      exact accounts_same hin hw (congrArg Tables.users ht)

/-- A user with a row is found, and nothing is drawn on the way. -/
theorem findUserByEmail_done {email : Email} {row : UserRow} {u : User} (hw : w.store.Fair)
    (hfind : w.store.tables.users.find? (·.email == email.text) = some row)
    (hload : loadRow row = .ok u) :
    Ensures (findUserByEmail email) w
      (fun r w' => r = some u ∧ Within w w' ∧ w'.store.tables = w.store.tables
        ∧ w'.random = w.random) (fun _ _ => False) := by
  refine ((findUser_fair rfl hw rfl).and (findUser_random rfl)).mono ?_ ?_
  · rintro r w' ⟨⟨hin, ht, hr⟩, hrandom⟩
    rw [hfind] at hr
    obtain ⟨u', hload', rfl⟩ := hr
    rw [hload] at hload'
    exact ⟨congrArg some (Except.ok.inj hload').symm, hin, ht, hrandom⟩
  · rintro _ _ ⟨⟨row', flaw, hfind', hload', -⟩, -⟩
    obtain rfl := Option.some.inj (hfind.symm.trans hfind')
    rw [hload] at hload'
    cases hload'

end Relational

/-! ## Accounts in memory -/

namespace MemoryStore

/-- A store in the condition that a request finds it in. -/
def meet (c : Misbehaviours) (m : MemoryStore) : MemoryStore := { m with misbehaviours := c }

/-- The accounts of a store. -/
def accounts (m : MemoryStore) : List Account := m.users.map .ofUser

theorem accountAt_map (users : List User) (email : Email) :
    accountAt (users.map .ofUser) email.text = (users.find? (·.email == email)).map .ofUser := by
  have htest : (fun u : User => u.email == email) = (·.address == email.text) ∘ Account.ofUser := by
    funext u
    rw [Bool.eq_iff_iff, beq_iff_eq]
    show u.email = email ↔ (u.email.text == email.text) = true
    rw [beq_iff_eq]
    exact ⟨congrArg Email.text, fun h => congrArg Email.mk h⟩
  rw [accountAt, List.find?_map, htest]

/-- **The store in memory keeps accounts.** -/
theorem keepsAccounts :
    store.KeepsAccounts meet (fun _ => True) accounts where
  met _ _ := ⟨trivial, rfl⟩
  createUser {w} u _ := by
    refine answering_ensures (fun _ => rfl) (fun _ _ => rfl) fun _ => Act.store_bind ?_
    split
    · rfl
    · rename_i hnew
      refine Act.modifyStore_bind ⟨rfl, ?_, List.map_append⟩
      intro a ha heq
      obtain ⟨v, hv, rfl⟩ := List.mem_map.mp ha
      refine hnew (List.any_eq_true.mpr ⟨v, hv, beq_iff_eq.mpr ?_⟩)
      exact congrArg Email.mk heq
  findUserByEmail _ _ :=
    answering_ensures (fun _ => rfl) (fun _ _ => rfl) fun _ =>
      Act.store_bind ⟨trivial, rfl, (accountAt_map _ _).symm⟩
  createSession _ _ _ _ _ _ :=
    answering_ensures (fun _ => rfl) (fun _ _ => rfl) fun _ =>
      Act.store_bind (Act.now_bind (Act.modifyStore_bind rfl))
  rotateSession _ _ _ _ _ := by
    refine answering_ensures (fun _ => rfl) (fun _ _ => rfl) fun _ => ?_
    refine Act.store_bind (Act.now_bind ?_)
    split
    · rfl
    split
    · rfl
    · rfl
    split
    · rfl
    · exact Act.modifyStore_bind rfl
  revokeSession _ _ := by
    refine answering_ensures (fun _ => rfl) (fun _ _ => rfl) fun _ => ?_
    refine Act.store_bind (Act.now_bind ?_)
    dsimp only
    split
    · rfl
    · rfl
  revokeAllSessions _ _ :=
    answering_ensures (fun _ => rfl) (fun _ _ => rfl) fun _ =>
      Act.store_bind (Act.now_bind (Act.modifyStore_bind rfl))

/-- A user who is there is found. -/
theorem findUserByEmail_done {w : World MemoryStore} {email : Email} {user : User}
    (hcalm : w.store.misbehaviours.findUserByEmail = none)
    (hfind : w.store.users.find? (·.email == email) = some user) :
    Ensures (store.findUserByEmail email) w
      (fun r w' => r = some user ∧ w' = noted (.findUserByEmail email) w) (fun _ _ => False) := by
  exact answering_calm hcalm (Act.store_bind ⟨hfind, rfl⟩)

/-- A session is added. -/
theorem createSession_done {w : World MemoryStore} {u : UserId} {secret : String}
    {expiresAt : Instant} {client : Client} {rotatedFrom : Option SessionId}
    (hcalm : w.store.misbehaviours.createSession = none) :
    Ensures (store.createSession u secret expiresAt client rotatedFrom) w (fun _ _ => True)
      (fun _ _ => False) := by
  exact answering_calm hcalm (Act.store_bind (Act.now_bind (Act.modifyStore_bind trivial)))

end MemoryStore

end SessionAuth
