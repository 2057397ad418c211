import SessionAuth.Proofs.Account.Email
import SessionAuth.Proofs.Network.IpAddress
import SessionAuth.Proofs.Store.Validation

/-!
What has been stored is read back.

A user and a session pass through the columns of a row, into the tables and out of them again. Nothing
of a session is lost on the way but what the database does not keep of its expiry; in particular an
internet address, which is dropped where it cannot be read, is always read back
(`stored_session_read_back`).

A user who is created is answered with as given, and found as the row has it. The times of the two
differ where the clock shows more than whole microseconds (`created_user_found_as_kept`).
-/

set_option autoImplicit false

namespace SessionAuth

/-- A user as the tables keep it, with times of whole microseconds. -/
def User.kept (u : User) : User :=
  { u with
    emailVerifiedAt := u.emailVerifiedAt.map Instant.towardStorageEpoch
    createdAt := u.createdAt.towardStorageEpoch
    updatedAt := u.updatedAt.towardStorageEpoch }

namespace Relational

open Database (NewSession UserRow SessionRow Tables Statement Within)

variable {w w' : World Database} {s : Statement} {t : Tables} {u old : User}

/-- An element that is the first to pass a test is found behind the others. -/
theorem find?_snoc {α : Type} {l : List α} {a : α} {p : α → Bool} (hl : ∀ b ∈ l, p b = false)
    (ha : p a = true) : (l ++ [a]).find? p = some a := by
  have hnone : l.find? p = none := List.find?_eq_none.mpr fun b hb => by
    rw [hl b hb]
    exact Bool.false_ne_true
  rw [List.find?_append, hnone, Option.none_or, List.find?_cons_of_pos ha]

/-! ## Users -/

/-- What comes of looking for the first user whose row passes a test. -/
def foundBy (t : Tables) (test : UserRow → Bool) : Except (Failure UserFault) (Option User) :=
  match t.users.find? test with
  | none => .ok none
  | some row => ((loadRow row).map some).mapError fun flaw => .refused (.invalidEmail flaw)

/-- In a fair database, a user is looked for in the tables and nowhere else. -/
theorem findUser_result {test : UserRow → Bool} (hs : s.isBoundary = false) (hw : w.store.Fair)
    (hrun : w.store.tables.run w.now.floorMicros s
      = .ok (Tables.select w.store.tables.users test UserRow.cells, w.store.tables)) :
    (findUser s w).1 = foundBy w.store.tables test := by
  refine ((findUser_fair hs hw hrun).mono (fun r _ hr => ?_) fun e _ he => ?_).ending
    (P := fun ended _ => ended = foundBy w.store.tables test)
  · obtain ⟨-, -, hr⟩ := hr
    unfold foundBy
    cases hfind : w.store.tables.users.find? test with
    | none =>
      rw [hfind] at hr
      rw [hr]
    | some row =>
      rw [hfind] at hr
      obtain ⟨user, hload, rfl⟩ := hr
      dsimp only
      rw [hload]
      rfl
  · obtain ⟨row, flaw, hfind, hload, rfl⟩ := he
    rw [foundBy, hfind]
    dsimp only
    rw [hload]
    rfl

theorem findUserByEmail_result {email : Email} (hw : w.store.Fair) :
    (findUserByEmail email w).1 = foundBy w.store.tables (·.email == email.text) :=
  findUser_result rfl hw rfl

theorem findUserById_result {id : UserId} (hw : w.store.Fair) :
    (findUserById id w).1 = foundBy w.store.tables (·.id == id) := findUser_result rfl hw rfl

/-- Whoever is found is found as well where rows have been added behind. -/
theorem foundBy_append {test : UserRow → Bool} (rows : List UserRow)
    (h : foundBy t test = .ok (some old)) :
    foundBy { t with users := t.users ++ rows } test = .ok (some old) := by
  unfold foundBy at h ⊢
  rw [List.find?_append]
  cases hfind : t.users.find? test with
  | none =>
    rw [hfind] at h
    cases h
  | some row =>
    rw [hfind] at h
    exact h

/-- The row of a user is read as what is kept of the user, because the address is its own normal form. -/
theorem loadRow_ofUser (h : Email.parse u.email.text = .ok u.email) :
    loadRow (.ofUser u) = .ok u.kept := by
  show (Email.parse u.email.text).map _ = _
  rw [h]
  rfl

/-- A row that is the first to pass a test is the one that is found. -/
theorem foundBy_snoc {test : UserRow → Bool} (h : Email.parse u.email.text = .ok u.email)
    (hrows : ∀ row ∈ t.users, test row = false) (htest : test (.ofUser u) = true) :
    foundBy { t with users := t.users ++ [.ofUser u] } test = .ok (some u.kept) := by
  rw [foundBy, find?_snoc hrows htest]
  dsimp only
  rw [loadRow_ofUser h]
  rfl

theorem register?_user {email : Email} {hash : String} {now : Instant} {r rest : RandomSource}
    (h : User.register? email hash now r = some (u, rest)) :
    ∃ id, u = ⟨id, email, hash, none, now, now⟩ := by
  obtain ⟨⟨id, r⟩, -, hu⟩ := Option.map_eq_some_iff.mp h
  exact ⟨⟨id⟩, (congrArg Prod.fst hu).symm⟩

/-- Of a user who has just been registered, all is kept exactly if the clock shows a whole
microsecond. -/
theorem kept_registered_iff {id : UserId} {email : Email} {hash : String} {now : Instant}
    (h : u = ⟨id, email, hash, none, now, now⟩) : u.kept = u ↔ now.IsWhole := by
  rw [h, ← Instant.towardStorageEpoch_eq_self_iff]
  constructor
  · exact congrArg User.createdAt
  · intro hwhole
    show ({ id, email, passwordHash := hash, emailVerifiedAt := none
            createdAt := now.towardStorageEpoch, updatedAt := now.towardStorageEpoch } : User) = _
    rw [hwhole]

/-- **A created user is found as it is kept**, by address and by identifier, at any clock: this is the user
that is answered with, exactly if the clock shows a whole microsecond, and otherwise differs from it in
the times. Whoever was found before is still found, and unchanged. -/
theorem created_user_found_as_kept (w w' : World Database) (raw hash : String) (email : Email)
    (now : Instant) (r rest : RandomSource) (u v : User) (hfair : w.store.Fair)
    (hemail : Email.parse raw = .ok email)
    (hu : User.register? email hash now r = some (u, rest))
    (hcreate : createUser u w = (.ok v, w')) :
    v = u
      ∧ (findUserByEmail v.email w').1 = .ok (some v.kept)
      ∧ (findUserById v.id w').1 = .ok (some v.kept)
      ∧ ((findUserByEmail v.email w').1 = .ok (some v) ↔ now.IsWhole)
      ∧ ((findUserById v.id w').1 = .ok (some v) ↔ now.IsWhole)
      ∧ (∀ email' old, (findUserByEmail email' w).1 = .ok (some old) →
        (findUserByEmail email' w').1 = .ok (some old))
      ∧ ∀ id old, (findUserById id w).1 = .ok (some old) →
        (findUserById id w').1 = .ok (some old) := by
  obtain ⟨id, hregistered⟩ := register?_user hu
  have hnormal : Email.parse u.email.text = .ok u.email := by
    rw [hregistered]
    exact Email.parse_text hemail
  obtain ⟨rfl, hin, hins⟩ := (createUser_ensures u hfair.faithful).of_ok (congrArg Prod.fst hcreate)
  rw [hcreate] at hin hins
  have hfair' : w'.store.Fair := hin.fair hfair
  obtain ⟨ht, hids, hemails⟩ := Database.insertUser_ok hins
  have hbyEmail : (findUserByEmail v.email w').1 = .ok (some v.kept) := by
    rw [findUserByEmail_result hfair', ht]
    exact foundBy_snoc hnormal (fun row hrow => beq_eq_false_iff_ne.mpr (hemails row hrow))
      (beq_self_eq_true _)
  have hbyId : (findUserById v.id w').1 = .ok (some v.kept) := by
    rw [findUserById_result hfair', ht]
    exact foundBy_snoc hnormal (fun row hrow => beq_eq_false_iff_ne.mpr (hids row hrow))
      (beq_self_eq_true _)
  have hexact : (Except.ok (some v.kept) : Except (Failure UserFault) _) = .ok (some v)
      ↔ now.IsWhole := by
    rw [Except.ok.injEq, Option.some.injEq]
    exact kept_registered_iff hregistered
  refine ⟨rfl, hbyEmail, hbyId, hbyEmail ▸ hexact, hbyId ▸ hexact, ?_, ?_⟩
  · intro email' old h
    rw [findUserByEmail_result hfair] at h
    rw [findUserByEmail_result hfair', ht]
    exact foundBy_append _ h
  · intro id old h
    rw [findUserById_result hfair] at h
    rw [findUserById_result hfair', ht]
    exact foundBy_append _ h

/-! ### A clock between two microseconds -/

/-- A user who registers between two microseconds. -/
def newcomer : User where
  id := ⟨nextDrawn⟩
  email := ⟨"b@example.com"⟩
  passwordHash := ""
  emailVerifiedAt := none
  createdAt := ⟨1700000000123456789⟩
  updatedAt := ⟨1700000000123456789⟩

theorem newcomer_registered : ∃ rest,
    User.register? newcomer.email "" newcomer.createdAt roomy.random = some (newcomer, rest) := by
  obtain ⟨rest, hdraw⟩ := household_draws (.ofNat 1)
  refine ⟨rest, ?_⟩
  show (Uuid.random? (household (.ofNat 1)).random).map _ = _
  rw [hdraw]
  rfl

theorem newcomer_created : (createUser newcomer roomy).1 = .ok newcomer := by
  decide +kernel

theorem created_user_found_newcomer :
    roomy.store.Fair ∧ Email.parse "b@example.com" = .ok newcomer.email
      ∧ (∃ rest, User.register? newcomer.email "" newcomer.createdAt roomy.random
        = some (newcomer, rest))
      ∧ createUser newcomer roomy = (.ok newcomer, (createUser newcomer roomy).2)
      ∧ (findUserByEmail newcomer.email (createUser newcomer roomy).2).1 = .ok (some newcomer.kept)
      ∧ (findUserById tenant.id (createUser newcomer roomy).2).1 = .ok (some tenant) := by
  obtain ⟨-, hfair⟩ := household_idle (.ofNat 1)
  obtain ⟨rest, hregistered⟩ := newcomer_registered
  have hemail : Email.parse "b@example.com" = .ok newcomer.email := by
    decide +kernel
  have hcreate : createUser newcomer roomy = (.ok newcomer, (createUser newcomer roomy).2) :=
    Prod.ext newcomer_created rfl
  have htenant : (findUserById tenant.id roomy).1 = .ok (some tenant) := by
    decide +kernel
  obtain ⟨-, hbyEmail, -, -, -, -, hbefore⟩ := created_user_found_as_kept roomy _ "b@example.com" ""
    newcomer.email newcomer.createdAt roomy.random rest newcomer newcomer hfair hemail hregistered
    hcreate
  exact ⟨hfair, hemail, ⟨rest, hregistered⟩, hcreate, hbyEmail, hbefore _ _ htenant⟩

/-- A user who registers between two microseconds is found with other times than were answered. -/
theorem created_user_found_altered :
    (∃ rest, User.register? newcomer.email "" newcomer.createdAt roomy.random
        = some (newcomer, rest))
      ∧ (createUser newcomer roomy).1 = .ok newcomer
      ∧ (findUserByEmail newcomer.email (createUser newcomer roomy).2).1 ≠ .ok (some newcomer)
      ∧ (findUserById newcomer.id (createUser newcomer roomy).2).1 ≠ .ok (some newcomer) := by
  refine ⟨newcomer_registered, newcomer_created, ?_, ?_⟩
  all_goals decide +kernel

/-! ## Sessions -/

/-- How a column of addresses shows a text that has been stored in it. -/
def columnSpelling (s : String) : String := (IpAddress.parse? s).elim s IpAddress.columnText

/-- A row with its internet address in the spelling of the column. -/
def spelledRow (row : SessionRow) : SessionRow := { row with ip := row.ip.map columnSpelling }

/-- The tables with every internet address in the spelling of the column. -/
def spelled (t : Tables) : Tables := { t with sessions := t.sessions.map spelledRow }

/-- An address is read back from the spelling it was sent in. -/
theorem parse?_sent (ip : Option IpAddress) :
    (ip.map IpAddress.toText).bind IpAddress.parse? = ip := by
  cases ip with
  | none => rfl
  | some a => rw [Option.map_some, Option.bind_some, IpAddress.parse?_toText]

/-- An address is read back from the spelling of the column. -/
theorem parse?_spelled (ip : Option IpAddress) :
    ((ip.map IpAddress.toText).map columnSpelling).bind IpAddress.parse? = ip := by
  cases ip with
  | none => rfl
  | some a =>
    rw [Option.map_some, Option.map_some, Option.bind_some, columnSpelling,
      IpAddress.parse?_toText]
    exact IpAddress.parse?_columnText a

/-- The session for a new secret is read as soon as it is stored, unless it has expired already. -/
theorem validated?_snoc (row : SessionRow) {secret : String} {moment : Instant} {owner : User}
    (hrows : ∀ r ∈ t.sessions, r.digest ≠ RefreshSecret.digest secret)
    (hdigest : row.digest = RefreshSecret.digest secret) (hopen : row.revokedAt = none)
    (hends : moment < row.expiresAt) (howner : owner? t row.userId = some owner) :
    validated? { t with sessions := t.sessions ++ [row] } moment secret
      = some (sessionIn row, owner) := by
  have hselected : selected? { t with sessions := t.sessions ++ [row] } moment secret = some row := by
    refine find?_snoc (fun r hr => ?_) (isSelected_iff.mpr ⟨hdigest, hopen, hends⟩)
    rw [Bool.eq_false_iff]
    exact fun h => hrows r hr (isSelected_iff.mp h).1
  rw [validated?, hselected, Option.bind_some]
  exact congrArg (Option.map (sessionIn row, ·)) howner

/-- **A stored session is read back as it was given**, together with its owner: the identifier, the digest
of the secret, what is known about the client and the session that it replaces, and the expiry in whole
microseconds. It makes no difference whether internet addresses come back as they were sent or in the
spelling of their column. -/
theorem stored_session_read_back (w w' : World Database) (userId : UserId) (owner : User)
    (secret : String) (expiresAt : Instant) (client : Client) (rotatedFrom : Option SessionId)
    (id : SessionId) (hfair : w.store.Fair)
    (howner : Loads (w.store.tables.users.find? (·.id == userId)) (some owner))
    (hends : w.now.floorMicros < expiresAt.towardStorageEpoch)
    (hcreate : createSession userId secret expiresAt client rotatedFrom w = (.ok id, w')) :
    let session : Session :=
      { id
        userId
        digest := RefreshSecret.digest secret
        createdAt := w.now.floorMicros
        expiresAt := expiresAt.towardStorageEpoch
        revokedAt := none
        client
        rotatedFrom }
    let spelled' : World Database :=
      { w' with store := { w'.store with tables := spelled w'.store.tables } }
    w'.now = w.now
      ∧ (validateSession secret w').1 = .ok (session, owner)
      ∧ (validateSession secret spelled').1 = .ok (session, owner) := by
  intro session spelled'
  obtain ⟨hin, hins⟩ :=
    (createSession_ensures hfair.faithful).of_ok (congrArg Prod.fst hcreate)
  rw [hcreate] at hin hins
  have hfair' : w'.store.Fair := hin.fair hfair
  have hfair'' : spelled'.store.Fair := ⟨hfair'.answers, hfair'.undisturbed⟩
  have hnow : w'.now = w.now := hin.now
  have hnow' : spelled'.now = w.now := hnow
  obtain ⟨ht, -, hdigests⟩ := Database.insertSession_ok hins
  have howner' : owner? w.store.tables userId = some owner := owner?_eq_some_iff.mpr howner
  let row := (NewSession.of id userId (RefreshSecret.digest secret) expiresAt client
    rotatedFrom).row w.now.floorMicros
  have hsent : sessionIn row = session :=
    congrArg (fun ip => { session with client := ⟨client.userAgent, ip⟩ }) (parse?_sent client.ip)
  have hshown : sessionIn (spelledRow row) = session :=
    congrArg (fun ip => { session with client := ⟨client.userAgent, ip⟩ })
      (parse?_spelled client.ip)
  refine ⟨hnow, ?_, ?_⟩
  · have hvalid := validated?_snoc row hdigests rfl rfl hends howner'
    rw [validateSession_result hfair', hnow, ht]
    rw [hsent] at hvalid
    rw [hvalid]
  · -- the spelling changes no digest, so that the row is still the only one of the secret
    have hdigests' : ∀ r ∈ (spelled w.store.tables).sessions,
        r.digest ≠ RefreshSecret.digest secret := by
      intro r hr
      obtain ⟨r', hr', rfl⟩ := List.mem_map.mp hr
      exact hdigests r' hr'
    have hvalid := validated?_snoc (spelledRow row) hdigests' rfl rfl hends howner'
    have hspelled : spelled'.store.tables = { spelled w.store.tables with
        sessions := (spelled w.store.tables).sessions ++ [spelledRow row] } := by
      show spelled w'.store.tables = _
      rw [ht]
      exact congrArg (fun l => { w.store.tables with sessions := l }) List.map_append
    rw [hshown] at hvalid
    rw [validateSession_result hfair'', hnow', hspelled, hvalid]

/-! ### An address in two spellings -/

/-- A client whose address the column spells otherwise than the service. -/
def dualClient : Client where
  userAgent := some "curl/8.5.0"
  ip := some (.v6 [0, 0, 0, 0, 0, 0, 0x0102, 0x0304] rfl)

example : dualClient.ip.map IpAddress.toText = some "::102:304"
    ∧ dualClient.ip.map IpAddress.columnText = some "::1.2.3.4" := by
  decide +kernel

theorem stored_session_read_back_dual :
    let stored := createSession tenant.id "new" (.ofSeconds 120) dualClient (some ⟨.ofNat 1⟩) roomy
    roomy.store.Fair
      ∧ Loads (roomy.store.tables.users.find? (·.id == tenant.id)) (some tenant)
      ∧ roomy.now.floorMicros < (Instant.ofSeconds 120).towardStorageEpoch
      ∧ stored = (.ok ⟨nextDrawn⟩, stored.2)
      ∧ ∃ session, session.client = dualClient ∧ session.rotatedFrom = some ⟨.ofNat 1⟩
        ∧ (validateSession "new" stored.2).1 = .ok (session, tenant) := by
  intro stored
  obtain ⟨-, hfair⟩ := household_idle (.ofNat 1)
  have howner : owner? roomy.store.tables tenant.id = some tenant := by
    decide +kernel
  have hends : roomy.now.floorMicros < (Instant.ofSeconds 120).towardStorageEpoch := by
    decide +kernel
  have hid : stored.1 = .ok ⟨nextDrawn⟩ := by
    decide +kernel
  have hcreate : stored = (.ok ⟨nextDrawn⟩, stored.2) := Prod.ext hid rfl
  have hloads := owner?_eq_some_iff.mp howner
  obtain ⟨-, hvalid, -⟩ := stored_session_read_back roomy _ _ _ _ _ _ _ _ hfair hloads hends hcreate
  exact ⟨hfair, hloads, hends, hcreate, _, rfl, rfl, hvalid⟩

end Relational

end SessionAuth
