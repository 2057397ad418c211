import SessionAuth.Proofs.Store.Answer
import SessionAuth.Proofs.Time.Instant

/-!
Three places say whether a session is active, and they agree.

A session that has been read says so itself (`Session.state`). A validation leaves it to the statement that
selects the row, which asks the clock of the database. A rotation reads the row, whatever its state, and
asks the clock of the service. Times in the tables are whole microseconds, so that the two clocks make
no difference.

They do not answer alike where the owner is missing or cannot be read: a validation always rejects the
secret then, while a rotation may end with a fault. Nor does a rotation succeed whose new identifier a
session has already.
-/

set_option autoImplicit false

namespace SessionAuth.Relational

open Database (Cell Row QueryFault NewSession UserRow SessionRow Tables Statement Within)

variable {w : World Database} {limit : Duration} {secret newSecret : String} {expiresAt : Instant}
  {client : Client} {t : Tables} {now : Instant} {row : SessionRow} {id : Uuid}
  {rest : RandomSource} {session : Session} {user : User}

/-! ## What is read -/

/-- The session in a row. -/
def sessionIn (row : SessionRow) : Session where
  id := row.id
  userId := row.userId
  digest := row.digest
  createdAt := row.createdAt
  expiresAt := row.expiresAt
  revokedAt := row.revokedAt
  client := ⟨row.userAgent, row.ip.bind IpAddress.parse?⟩
  rotatedFrom := row.rotatedFrom

/-- All that can be wrong with the row of a session is the length of its digest. -/
theorem readSession_cells (h : row.digest.length = 32) :
    readSession row.cells = .ok (sessionIn row) := by
  obtain ⟨id, userId, digest, createdAt, expiresAt, _ | revokedAt, _ | userAgent, _ | ip,
    _ | rotatedFrom⟩ := row
  all_goals exact if_neg (not_not_intro h)

/-- The owner of a session, if there is a row from which a user can be read. -/
def owner? (t : Tables) (id : UserId) : Option User :=
  (t.users.find? (·.id == id)).bind fun row => (loadRow row).toOption

theorem owner?_eq_some_iff {userId : UserId} :
    owner? t userId = some user ↔ Loads (t.users.find? (·.id == userId)) (some user) := by
  unfold owner?
  cases t.users.find? (·.id == userId) with
  | none => exact ⟨nofun, nofun⟩
  | some row =>
    rw [Option.bind_some, toOption_eq_some_iff]
    constructor
    · intro h
      refine .user ?_
      rw [readUser_cells, h]
      rfl
    · intro h
      cases h with
      | user hread =>
        rw [readUser_cells] at hread
        exact mapError_eq_ok hread

/-- What comes of looking for the owner is a user or nothing. -/
theorem findOwner_owner? {owner : UserId} (hw : w.store.Fair)
    (ht : w.store.tables = t) :
    Ensures (Database.attempt (findUserById owner) :
        Act Database SessionFault (Except UserFault (Option User))) w
      (fun r _ => owner? t owner = match r with
        | .ok found => found
        | .error _ => none)
      (fun _ _ => False) := by
  subst ht
  unfold owner?
  refine Database.attempt_ensures ((findUser_fair rfl hw rfl).mono ?_ ?_)
  · rintro r w' ⟨-, -, hr⟩
    cases hfind : w.store.tables.users.find? (·.id == owner) with
    | none =>
      rw [hfind] at hr
      rw [hr]
      rfl
    | some row =>
      rw [hfind] at hr
      obtain ⟨user, hload, rfl⟩ := hr
      rw [Option.bind_some, hload]
      rfl
  · rintro _ w' ⟨row, flaw, hfind, hload, rfl⟩
    rw [hfind, Option.bind_some, hload]
    rfl

/-! ## What a validation answers -/

/-- Whether a validation selects a row at a moment of the database. -/
def isSelected (moment : Instant) (secret : String) (row : SessionRow) : Bool :=
  row.digest == RefreshSecret.digest secret && row.revokedAt.isNone
    && decide (moment < row.expiresAt)

/-- The row that a validation selects. -/
def selected? (t : Tables) (moment : Instant) (secret : String) : Option SessionRow :=
  t.sessions.find? (isSelected moment secret)

/-- The session and the user that a validation answers with. Without them, it rejects the secret. -/
def validated? (t : Tables) (moment : Instant) (secret : String) : Option (Session × User) :=
  (selected? t moment secret).bind fun row => (owner? t row.userId).map fun user => (sessionIn row, user)

theorem isSelected_iff {moment : Instant} : isSelected moment secret row = true
    ↔ row.digest = RefreshSecret.digest secret ∧ row.revokedAt = none ∧ moment < row.expiresAt := by
  rw [isSelected, Bool.and_eq_true, Bool.and_eq_true, beq_iff_eq, Option.isNone_iff_eq_none,
    decide_eq_true_eq, and_assoc]

theorem selectActive_fair (hw : w.store.Fair) :
    Ensures (fetch (.activeSession (RefreshSecret.digest secret))) w
      (fun r w' => Within w w' ∧ w'.store.tables = w.store.tables
        ∧ r = (selected? w.store.tables w.now.floorMicros secret).map SessionRow.cells)
      (fun _ _ => False) := by
  refine Database.mapFault_ensures ((Database.fetch_fair rfl hw rfl).mono ?_ fun _ _ h => h)
  rintro _ w' ⟨hin, ht, rfl⟩
  exact ⟨hin, ht, Database.head?_select _ _ _⟩

/-- In a fair database, a validation is answered as the tables say. -/
theorem validateSession_fair (hw : w.store.Fair) :
    Ensures (validateSession secret) w
      (fun p _ => validated? w.store.tables w.now.floorMicros secret = some p)
      (fun e _ => validated? w.store.tables w.now.floorMicros secret = none
        ∧ e = .refused .unknown) := by
  unfold validated?
  refine Ensures.bind_mono (selectActive_fair hw) (fun _ _ h => h.elim) ?_
  rintro _ w₁ ⟨h₁, ht₁, rfl⟩
  cases hselected : selected? w.store.tables w.now.floorMicros secret with
  | none => exact ⟨rfl, rfl⟩
  | some row =>
    -- the row has the digest of a secret, so that nothing is wrong with its cells
    have hlength : row.digest.length = 32 := by
      rw [(isSelected_iff.mp (List.find?_some hselected)).1]
      rfl
    show Ensures (Act.ofExcept ((readSession row.cells).mapError sessionFault) >>= _) _ _ _
    rw [readSession_cells hlength]
    show Ensures (Database.attempt (findUserById row.userId) >>= _) _ _ _
    refine Ensures.bind_mono (findOwner_owner? (h₁.fair hw) ht₁) (fun _ _ h => h.elim) ?_
    rintro (fault | _ | user) w₂ howner
    · exact ⟨by rw [Option.bind_some, howner]; rfl, rfl⟩
    · exact ⟨by rw [Option.bind_some, howner]; rfl, rfl⟩
    · show _ = some _
      rw [Option.bind_some, howner]
      rfl

theorem validateSession_result (hw : w.store.Fair) :
    (validateSession secret w).1
      = match validated? w.store.tables w.now.floorMicros secret with
        | some p => .ok p
        | none => .error (.refused .unknown) := by
  refine ((validateSession_fair hw).mono (fun p _ hp => ?_) fun e _ he => ?_).ending
    (P := fun ended _ => ended = match validated? w.store.tables w.now.floorMicros secret with
      | some p => .ok p
      | none => .error (.refused .unknown))
  · rw [hp]
  · rw [he.1, he.2]

theorem rotateSession_result (hw : w.store.Fair)
    (hnew : ∀ row ∈ w.store.tables.sessions, row.digest ≠ RefreshSecret.digest newSecret)
    (hdraw : Uuid.random? w.random = some (id, rest)) :
    (rotateSession limit secret newSecret expiresAt client w).1
      = (secretAnswer w.store.tables w.now secret ⟨id⟩).mapError .refused := by
  refine ((rotateSession_secretAnswer hw hnew fun _ _ _ => hdraw).mono (fun r _ hr => ?_)
    fun e _ he => ?_).ending
    (P := fun ended _ => ended = (secretAnswer w.store.tables w.now secret ⟨id⟩).mapError .refused)
  · rw [hr]
    rfl
  · obtain ⟨fault, hfault, rfl⟩ := he
    rw [hfault]
    rfl

/-- **A validation changes nothing**, whatever the database does to its statements. -/
theorem validateSession_selects (secret : String) (w : World Database) :
    EndsIn (fun w' => Within w w' ∧ w'.store.tables = w.store.tables) (validateSession secret)
      w := by
  have hactive : (Statement.activeSession (RefreshSecret.digest secret)).Selects :=
    ⟨rfl, fun _ _ _ _ h => (congrArg Prod.snd (Except.ok.inj h)).symm⟩
  have hby : ∀ owner, (Statement.userById owner).Selects :=
    fun _ => ⟨rfl, fun _ _ _ _ h => (congrArg Prod.snd (Except.ok.inj h)).symm⟩
  refine Ensures.bind (Database.mapFault_ensures (Database.fetch_selects hactive)) ?_
  rintro (_ | row) w₁ h₁
  · exact h₁
  refine Ensures.bind (Q := fun _ w' => Within w w' ∧ w'.store.tables = w.store.tables)
    (Act.ofExcept_ensures (fun _ _ => h₁) fun _ _ => h₁) ?_
  rintro session w₂ ⟨h₂, ht₂⟩
  refine Ensures.bind (Q := fun _ w' => Within w w' ∧ w'.store.tables = w.store.tables)
    (Database.attempt_ensures ((findUser_selects (hby session.userId)).mono ?_ ?_)) ?_
  · rintro _ w₃ ⟨h₃, ht₃⟩
    exact ⟨h₂.trans h₃, ht₃.trans ht₂⟩
  · rintro (_ | _ | _) w₃ ⟨h₃, ht₃⟩ <;> exact ⟨h₂.trans h₃, ht₃.trans ht₂⟩
  · rintro (fault | _ | user) w₃ ⟨h₃, ht₃⟩
    -- the event that is reported for a fault is not part of the database
    · exact ⟨⟨h₃.now, h₃.atStart, h₃.interferences, h₃.answers, h₃.log⟩, ht₃⟩
    · exact ⟨h₃, ht₃⟩
    · exact ⟨h₃, ht₃⟩

/-! ## Active sessions -/

/-- **The session of a secret is active, and its owner can be read.** -/
structure Active (t : Tables) (now : Instant) (secret : String) (session : Session) (user : User) :
    Prop where
  row : ∃ row ∈ t.sessions, row.digest = RefreshSecret.digest secret
    ∧ readSession row.cells = .ok session
  state : session.state now = .active
  owner : Loads (t.users.find? (·.id == session.userId)) (some user)

theorem stateAt_active_iff {ends : Instant} {revokedAt : Option Instant} :
    SessionState.at ends revokedAt now = .active ↔ revokedAt = none ∧ now < ends := by
  unfold SessionState.at
  cases revokedAt with
  | some _ => exact ⟨nofun, nofun⟩
  | none =>
    show (if ends ≤ now then SessionState.expired else .active) = .active ↔ _
    have hlt : now < ends ↔ ¬ends ≤ now := Int.not_le.symm
    rw [hlt]
    by_cases hends : ends ≤ now
    · simp [hends]
    · simp [hends]

/-- The row of a session whose secret is the only one with its digest. -/
theorem active_iff :
    Active t now secret session user
      ↔ ∃ row ∈ t.sessions, row.digest = RefreshSecret.digest secret ∧ sessionIn row = session
        ∧ SessionState.at row.expiresAt row.revokedAt now = .active
        ∧ owner? t row.userId = some user := by
  have hread : ∀ {row : SessionRow}, row.digest = RefreshSecret.digest secret →
      readSession row.cells = .ok (sessionIn row) := by
    intro row hdigest
    refine readSession_cells ?_
    rw [hdigest]
    rfl
  constructor
  · rintro ⟨⟨row, hrow, hdigest, hsession⟩, hstate, howner⟩
    obtain rfl := Except.ok.inj ((hread hdigest).symm.trans hsession)
    exact ⟨row, hrow, hdigest, rfl, hstate, owner?_eq_some_iff.mpr howner⟩
  · rintro ⟨row, hrow, hdigest, rfl, hstate, howner⟩
    exact ⟨⟨row, hrow, hdigest, hread hdigest⟩, hstate, owner?_eq_some_iff.mp howner⟩

/-- What a validation selects at a moment of the database is what is active by the finer clock. -/
theorem selected?_eq_some_iff (hdigests : (t.sessions.map (·.digest)).Nodup)
    (hwhole : ∀ row ∈ t.sessions, row.expiresAt.IsWhole) :
    selected? t now.floorMicros secret = some row
      ↔ row ∈ t.sessions ∧ row.digest = RefreshSecret.digest secret
        ∧ SessionState.at row.expiresAt row.revokedAt now = .active := by
  have hpasses : ∀ row ∈ t.sessions, isSelected now.floorMicros secret row = true
      ↔ row.digest = RefreshSecret.digest secret
        ∧ SessionState.at row.expiresAt row.revokedAt now = .active := by
    intro row hrow
    rw [isSelected_iff, stateAt_active_iff, Instant.floorMicros_lt_iff (hwhole row hrow)]
  constructor
  · intro h
    have hrow := List.mem_of_find?_eq_some h
    exact ⟨hrow, (hpasses row hrow).mp (List.find?_some h)⟩
  · rintro ⟨hrow, hactive⟩
    -- the row that is found might be an earlier one, but no two rows have the same digest
    cases hfind : selected? t now.floorMicros secret with
    | none =>
      exact absurd ((hpasses row hrow).mpr hactive) (List.find?_eq_none.mp hfind row hrow)
    | some found =>
      have hfound := List.mem_of_find?_eq_some hfind
      have hdigest := ((hpasses found hfound).mp (List.find?_some hfind)).1
      rw [List.inj_on_of_nodup_map hdigests hfound hrow (hdigest.trans hactive.1.symm)]

/-- **A validation accepts exactly the active sessions.** -/
theorem validated?_eq_some_iff (hdigests : (t.sessions.map (·.digest)).Nodup)
    (hwhole : ∀ row ∈ t.sessions, row.expiresAt.IsWhole) :
    validated? t now.floorMicros secret = some (session, user)
      ↔ Active t now secret session user := by
  rw [active_iff, validated?]
  simp only [Option.bind_eq_some_iff, Option.map_eq_some_iff, selected?_eq_some_iff hdigests hwhole,
    Prod.mk.injEq]
  constructor
  · rintro ⟨row, ⟨hrow, hdigest, hstate⟩, owner, howner, hsession, rfl⟩
    exact ⟨row, hrow, hdigest, hsession, hstate, howner⟩
  · rintro ⟨row, hrow, hdigest, hsession, hstate, howner⟩
    exact ⟨row, ⟨hrow, hdigest, hstate⟩, user, howner, hsession, rfl⟩

theorem ownerAnswer_eq_ok_iff {owner : UserId} {id : SessionId} {r : RotatedSession} :
    ownerAnswer t owner id = .ok r ↔ r.sessionId = id ∧ owner? t owner = some r.user := by
  unfold ownerAnswer owner?
  cases t.users.find? (·.id == owner) with
  | none => exact ⟨nofun, nofun⟩
  | some row =>
    rw [Option.bind_some]
    cases hload : loadRow row with
    | error flaw =>
      simp only [hload]
      exact ⟨nofun, nofun⟩
    | ok user =>
      simp only [hload]
      constructor
      · rintro ⟨⟩
        exact ⟨rfl, rfl⟩
      · rintro ⟨rfl, huser⟩
        rw [Option.some.inj huser]

/-- An owner who can be read has a row. -/
theorem any_of_owner? {owner : UserId} (h : owner? t owner = some user) :
    t.users.any (·.id == owner) = true := by
  obtain ⟨row, hrow, -⟩ := Option.bind_eq_some_iff.mp h
  exact List.any_eq_true.mpr
    ⟨row, List.mem_of_find?_eq_some hrow, beq_iff_eq.mpr (Database.eq_of_find? hrow)⟩

/-- The session of an active secret is replaced, unless the identifier is taken. -/
theorem secretAnswer_of_active {id : SessionId} (hdigests : (t.sessions.map (·.digest)).Nodup)
    (h : Active t now secret session user) :
    secretAnswer t now secret id
      = if t.sessions.any (·.id == id) then
          .error (sessionFault (.server (.duplicate "sessions_pkey")))
        else .ok ⟨id, user⟩ := by
  obtain ⟨row, hrow, hdigest, -, hstate, howner⟩ := active_iff.mp h
  have hfind := Database.find?_eq_some hdigests hrow
  rw [hdigest] at hfind
  have hanswer : ownerAnswer t row.userId id = .ok ⟨id, user⟩ :=
    ownerAnswer_eq_ok_iff.mpr ⟨rfl, howner⟩
  rw [secretAnswer_found hfind]
  unfold lockedAnswer
  rw [hstate, any_of_owner? howner, Bool.not_true, Bool.and_false, hanswer]
  rfl

/-- **A rotation replaces active sessions only.** -/
theorem active_of_secretAnswer {id : SessionId} {r : RotatedSession}
    (h : secretAnswer t now secret id = .ok r) :
    ∃ session, Active t now secret session r.user := by
  unfold secretAnswer at h
  split at h
  · cases h
  rename_i row hfind
  unfold lockedAnswer at h
  -- neither a revoked session is replaced nor an expired one
  split at h
  · cases h
  · cases h
  rename_i hstate
  split at h
  · cases h
  split at h
  · cases h
  exact ⟨sessionIn row, active_iff.mpr ⟨row, List.mem_of_find?_eq_some hfind,
    Database.eq_of_find? hfind, rfl, hstate, (ownerAnswer_eq_ok_iff.mp h).2⟩⟩

/-! ## Three ways to say it -/

/-- **Validation, rotation and the state of a session agree on what is active**, in a fair database in
which digests are unique and times are whole microseconds, where the new secret has no session yet. A
validation accepts the active sessions whose owner can be read, and so does a rotation, with the same
user, unless the identifier for the new session is taken. Where a rotation rejects the secret, a
validation does too; where the owner is missing or cannot be read, a validation rejects the secret and
a rotation fails in one way or another. No validation ever changes the tables. -/
theorem sessions_active_alike (w : World Database) (limit : Duration) (secret newSecret : String)
    (expiresAt : Instant) (client : Client) (id : Uuid) (rest : RandomSource)
    (hfair : w.store.Fair) (hdigests : (w.store.tables.sessions.map (·.digest)).Nodup)
    (hwhole : ∀ row ∈ w.store.tables.sessions, row.expiresAt.IsWhole)
    (hnew : ∀ row ∈ w.store.tables.sessions, row.digest ≠ RefreshSecret.digest newSecret)
    (hdraw : Uuid.random? w.random = some (id, rest)) :
    (∀ session user, (validateSession secret w).1 = .ok (session, user)
        ↔ Active w.store.tables w.now secret session user)
      ∧ (∀ r, (rotateSession limit secret newSecret expiresAt client w).1 = .ok r →
        ∃ session, (validateSession secret w).1 = .ok (session, r.user))
      ∧ ((∀ row ∈ w.store.tables.sessions, row.id ≠ ⟨id⟩) → ∀ session user,
        (validateSession secret w).1 = .ok (session, user) →
          (rotateSession limit secret newSecret expiresAt client w).1 = .ok ⟨⟨id⟩, user⟩)
      ∧ (∀ fault, fault.isRejection = true →
        (rotateSession limit secret newSecret expiresAt client w).1 = .error (.refused fault) →
          (validateSession secret w).1 = .error (.refused .unknown))
      ∧ (∀ row ∈ w.store.tables.sessions, ∀ session, row.digest = RefreshSecret.digest secret →
        readSession row.cells = .ok session → session.state w.now = .active →
        (∀ user, ¬Loads (w.store.tables.users.find? (·.id == session.userId)) (some user)) →
          (validateSession secret w).1 = .error (.refused .unknown)
          ∧ ∃ fault, (rotateSession limit secret newSecret expiresAt client w).1
            = .error (.refused fault))
      ∧ ∀ v : World Database, (validateSession secret v).2.store.tables = v.store.tables
        ∧ (validateSession secret v).2.store.settled = v.store.settled := by
  have hvalid : (validateSession secret w).1 = _ := validateSession_result hfair
  have hrotated : (rotateSession limit secret newSecret expiresAt client w).1 = _ :=
    rotateSession_result hfair hnew hdraw
  have haccepted : ∀ session user, (validateSession secret w).1 = .ok (session, user)
      ↔ Active w.store.tables w.now secret session user := by
    intro session user
    rw [hvalid, ← validated?_eq_some_iff hdigests hwhole]
    cases validated? w.store.tables w.now.floorMicros secret with
    | none => exact ⟨nofun, nofun⟩
    | some p => exact ⟨fun h => congrArg some (Except.ok.inj h), fun h => congrArg _ (Option.some.inj h)⟩
  have hrejected : (∀ session user, ¬Active w.store.tables w.now secret session user) →
      (validateSession secret w).1 = .error (.refused .unknown) := by
    intro hinactive
    cases hv : validated? w.store.tables w.now.floorMicros secret with
    | none => rw [hvalid, hv]
    | some p => exact absurd ((validated?_eq_some_iff hdigests hwhole).mp hv) (hinactive p.1 p.2)
  refine ⟨haccepted, ?_, ?_, ?_, ?_, ?_⟩
  · intro r hr
    rw [hrotated] at hr
    obtain ⟨session, hactive⟩ := active_of_secretAnswer (mapError_eq_ok hr)
    exact ⟨session, (haccepted session r.user).mpr hactive⟩
  · intro hfree session user h
    have htaken : w.store.tables.sessions.any (·.id == ⟨id⟩) = false := by simpa using hfree
    rw [hrotated, secretAnswer_of_active hdigests ((haccepted session user).mp h), htaken]
    rfl
  · intro fault hfault hr
    refine hrejected fun session user hactive => ?_
    -- an active session is replaced, or the database is at fault
    rw [hrotated, secretAnswer_of_active hdigests hactive] at hr
    split at hr
    · cases hr
      cases hfault
    · cases hr
  · intro row hrow session hdigest hread hstate hownerless
    have hinactive : ∀ session' user, ¬Active w.store.tables w.now secret session' user := by
      rintro session' user ⟨⟨row', hrow', hdigest', hread'⟩, -, howner⟩
      obtain rfl := List.inj_on_of_nodup_map hdigests hrow hrow' (hdigest.trans hdigest'.symm)
      obtain rfl := Except.ok.inj (hread.symm.trans hread')
      exact hownerless user howner
    refine ⟨hrejected hinactive, ?_⟩
    rw [hrotated]
    cases hanswer : secretAnswer w.store.tables w.now secret ⟨id⟩ with
    | error fault => exact ⟨fault, rfl⟩
    | ok r =>
      obtain ⟨session', hactive⟩ := active_of_secretAnswer hanswer
      exact absurd hactive (hinactive session' r.user)
  · intro v
    obtain ⟨hwithin, htables⟩ : Within v (validateSession secret v).2
        ∧ (validateSession secret v).2.store.tables = v.store.tables :=
      (validateSession_selects secret v).state
    refine ⟨htables, ?_⟩
    unfold Database.settled
    rw [hwithin.atStart, htables]

/-! ### An identifier that is free, and one that is taken -/

/-- The user in the row of a household. -/
def tenant : User where
  id := tenantRow.id
  email := ⟨tenantRow.email⟩
  passwordHash := tenantRow.passwordHash
  emailVerifiedAt := tenantRow.emailVerifiedAt
  createdAt := tenantRow.createdAt
  updatedAt := tenantRow.updatedAt

theorem household_digests (held : Uuid) :
    ((household held).store.tables.sessions.map (·.digest)).Nodup :=
  (household_constrained held).digests

theorem household_whole (held : Uuid) :
    ∀ row ∈ (household held).store.tables.sessions, row.expiresAt.IsWhole := by
  rw [household_tables]
  intro row hrow
  rw [List.mem_singleton.mp hrow]
  show (Instant.ofSeconds 60).IsWhole
  decide

theorem household_active (held : Uuid) :
    Active (household held).store.tables (household held).now "old" (sessionIn (heldRow held))
      tenant := by
  have hnow : (household held).now = .ofSeconds 30 := by
    unfold household
    rfl
  have howner : owner? { users := [tenantRow] } tenantRow.id = some tenant := by
    decide +kernel
  rw [household_tables, hnow]
  exact active_iff.mpr ⟨heldRow held, List.mem_singleton_self _, rfl, rfl, rfl, howner⟩

theorem sessions_active_alike_roomy :
    ∃ rest, roomy.store.Fair ∧ (roomy.store.tables.sessions.map (·.digest)).Nodup
      ∧ (∀ row ∈ roomy.store.tables.sessions, row.expiresAt.IsWhole)
      ∧ (∀ row ∈ roomy.store.tables.sessions, row.digest ≠ RefreshSecret.digest "new")
      ∧ Uuid.random? roomy.random = some (nextDrawn, rest)
      ∧ (validateSession "old" roomy).1 = .ok (sessionIn (heldRow (.ofNat 1)), tenant)
      ∧ (rotateSession defaultLockTimeout "old" "new" (.ofSeconds 120) ⟨none, none⟩ roomy).1
        = .ok ⟨⟨nextDrawn⟩, tenant⟩ := by
  obtain ⟨-, hfair⟩ := household_idle (.ofNat 1)
  obtain ⟨rest, hdraw⟩ := household_draws (.ofNat 1)
  obtain ⟨haccepted, -, hfree, -⟩ := sessions_active_alike roomy defaultLockTimeout "old" "new"
    (.ofSeconds 120) ⟨none, none⟩ nextDrawn rest hfair (household_digests _) (household_whole _)
    (household_new _) hdraw
  have hids : ∀ row ∈ roomy.store.tables.sessions, row.id ≠ ⟨nextDrawn⟩ := by
    decide +kernel
  have hvalid := (haccepted _ _).mpr (household_active (.ofNat 1))
  exact ⟨rest, hfair, household_digests _, household_whole _, household_new _, hdraw, hvalid,
    hfree hids _ _ hvalid⟩

/-- Where the identifier that is drawn belongs to a session already, a secret is valid and is not
rotated. -/
theorem validated_not_rotated :
    crowded.store.Fair ∧ (crowded.store.tables.sessions.map (·.digest)).Nodup
      ∧ (∀ row ∈ crowded.store.tables.sessions, row.expiresAt.IsWhole)
      ∧ (∀ row ∈ crowded.store.tables.sessions, row.digest ≠ RefreshSecret.digest "new")
      ∧ (∃ rest, Uuid.random? crowded.random = some (nextDrawn, rest))
      ∧ (validateSession "old" crowded).1 = .ok (sessionIn (heldRow nextDrawn), tenant)
      ∧ (rotateSession defaultLockTimeout "old" "new" (.ofSeconds 120) ⟨none, none⟩ crowded).1
        = .error (.refused (sessionFault (.server (.duplicate "sessions_pkey")))) := by
  refine ⟨(household_idle _).2, household_digests _, household_whole _, household_new _,
    household_draws _, ?_, ?_⟩
  all_goals decide +kernel

end SessionAuth.Relational
