import SessionAuth.Proofs.Result
import SessionAuth.Proofs.Store.Relational

/-!
The rotation of a session: what it writes, and that it writes all of it or nothing.

A rotation may end at a dozen points, in the middle of its writes as well as before them. None of
these points is looked at by itself. The body of the rotation stays inside its transaction, whatever
the database does to its statements (`replaceSession_within` and `rotation_within`), and what is done
in a transaction is done as a whole or not at all. What the whole consists of is `Rotates`.
-/

set_option autoImplicit false

namespace SessionAuth.Relational

open Database (Cell Row QueryFault NewSession UserRow SessionRow Tables Statement Within Committed
  RolledBack)

variable {w : World Database} {limit : Duration} {oldSecret newSecret : String}
  {expiresAt : Instant} {client : Client}

/-! ## Staying inside the transaction -/

theorem replaceSession_within (old : LockedSession) :
    Ensures (replaceSession old newSecret expiresAt client) w (fun _ w' => Within w w')
      (fun _ w' => Within w w') := by
  refine Act.now_bind ?_
  split
  · exact Within.refl w
  · exact Within.refl w
  refine Ensures.bind_mono (execute_within rfl) (fun _ _ h => h.1) ?_
  intro revoked w₁ h₁
  by_cases hz : revoked.changed = 0
  · simp only [hz, if_true]
    exact h₁
  · simp only [hz, if_false]
    refine Ensures.bind (createSession_within.mono (fun _ _ h => h₁.trans h)
      fun _ _ h => h₁.trans h.1) ?_
    intro id w₂ h₂
    refine Ensures.bind (Q := fun _ w' => Within w w') (Database.attempt_ensures
      ((findUser_within rfl).mono (fun _ _ h => h₂.trans h) ?_)) ?_
    · rintro (_ | _ | _) _ h <;> exact h₂.trans h
    · rintro (_ | _ | _) _ h <;> exact h

/-- The part of a rotation that runs inside the transaction. -/
def rotation (limit : Duration) (oldSecret newSecret : String) (expiresAt : Instant)
    (client : Client) : Act Database SessionFault (Except SessionFault RotatedSession) := do
  let _ ← execute (.limitLockWait limit)
  match ← fetch (.lockSession (RefreshSecret.digest oldSecret)) with
  | none => return .error .unknown
  | some row =>
    let old ← Act.ofExcept ((readLockedSession row).mapError sessionFault)
    replaceSession old newSecret expiresAt client

theorem rotateSession_eq :
    rotateSession limit oldSecret newSecret expiresAt client
      = Database.inTransaction sessionFault
          (rotation limit oldSecret newSecret expiresAt client) := rfl

theorem rotation_within :
    Ensures (rotation limit oldSecret newSecret expiresAt client) w (fun _ w' => Within w w')
      (fun _ w' => Within w w') := by
  refine Ensures.bind_mono (execute_within rfl) (fun _ _ h => h.1) ?_
  intro _ w₁ h₁
  refine Ensures.bind (Database.mapFault_ensures ((Database.fetch_within rfl).mono
    (fun _ _ h => h₁.trans h) fun _ _ h => h₁.trans h)) ?_
  rintro (_ | row) w₂ h₂
  · exact h₂
  · refine Ensures.bind (Q := fun _ w' => Within w w') (Act.ofExcept_ensures (fun _ _ => h₂)
      fun _ _ => h₂) ?_
    intro old w₃ h₃
    exact (replaceSession_within old).mono (fun _ _ h => h₃.trans h) fun _ _ h => h₃.trans h

/-! ## What is written -/

theorem revokedAt_of_active {revokedAt : Option Instant} {now : Instant}
    (h : SessionState.at expiresAt revokedAt now = .active) : revokedAt = none := by
  cases revokedAt with
  | none => rfl
  | some _ => cases h

/-- **A rotation in the tables**, of the session in one row: it is the first one with the digest of the
old secret, it is active, it is revoked, a session for the new secret is inserted that points back
to it, and the owner can be loaded. -/
structure Rotates (t : Tables) (now : Instant) (oldSecret newSecret : String)
    (expiresAt : Instant) (client : Client) (old : SessionRow) (r : RotatedSession)
    (t' : Tables) : Prop where
  found : t.sessions.find? (·.digest == RefreshSecret.digest oldSecret) = some old
  active : SessionState.at old.expiresAt old.revokedAt now = .active
  replaced : (t.revoke (·.id == old.id) now.towardStorageEpoch).2.insertSession
    (.of r.sessionId old.userId (RefreshSecret.digest newSecret) expiresAt client (some old.id))
    now.floorMicros = .ok t'
  owner : Loads (t.users.find? (·.id == old.userId)) (some r.user)

section Rotates

variable {t t' : Tables} {now : Instant} {old : SessionRow} {r : RotatedSession}

theorem Rotates.mem (h : Rotates t now oldSecret newSecret expiresAt client old r t') :
    old ∈ t.sessions := List.mem_of_find?_eq_some h.found

theorem Rotates.digest_eq (h : Rotates t now oldSecret newSecret expiresAt client old r t') :
    old.digest = RefreshSecret.digest oldSecret := Database.eq_of_find? h.found

/-- One row is marked, and one row is appended for its owner. -/
theorem Rotates.sessions_eq (h : Rotates t now oldSecret newSecret expiresAt client old r t') :
    t'.sessions
      = t.sessions.map (SessionRow.revokedBy (·.id == old.id) now.towardStorageEpoch)
        ++ [NewSession.row (.of r.sessionId old.userId (RefreshSecret.digest newSecret) expiresAt
            client (some old.id)) now.floorMicros] := by
  rw [(Database.insertSession_ok h.replaced).1]
  rfl

/-- The user who is answered with is the owner. -/
theorem Rotates.owner_id (h : Rotates t now oldSecret newSecret expiresAt client old r t') :
    r.user.id = old.userId := by
  have howner := h.owner
  generalize hfind : t.users.find? (·.id == old.userId) = found at howner
  cases howner with
  | @user row u hread =>
    rw [readUser_cells] at hread
    have hload : loadRow row = .ok r.user := mapError_eq_ok hread
    rw [loadRow_id hload]
    exact Database.eq_of_find? hfind

/-- Only a row that is not revoked is rotated. -/
theorem Rotates.revokedAt_eq (h : Rotates t now oldSecret newSecret expiresAt client old r t') :
    old.revokedAt = none := revokedAt_of_active h.active

/-- Only an open session is rotated. -/
theorem Rotates.isOpen (h : Rotates t now oldSecret newSecret expiresAt client old r t') :
    IsOpen t oldSecret := ⟨old, h.mem, h.digest_eq, h.revokedAt_eq⟩

end Rotates

/-- The cells that are read of a locked row are those of the row. -/
theorem readLockedSession_lockedCells (row : SessionRow) :
    readLockedSession row.lockedCells = .ok ⟨row.id, row.userId, row.expiresAt, row.revokedAt⟩ := by
  obtain ⟨id, userId, digest, createdAt, expiresAt, revokedAt | revokedAt, _, _, _⟩ := row <;> rfl

/-- Where the replacement of a row is decided for, it has been written. -/
theorem replaceSession_ensures (old : SessionRow) (hw : w.store.Faithful) :
    Ensures (replaceSession ⟨old.id, old.userId, old.expiresAt, old.revokedAt⟩ newSecret expiresAt
        client) w
      (fun d w' => ∀ r, d = .ok r →
        SessionState.at old.expiresAt old.revokedAt w.now = .active
        ∧ (w.store.tables.revoke (·.id == old.id) w.now.towardStorageEpoch).2.insertSession
            (.of r.sessionId old.userId (RefreshSecret.digest newSecret) expiresAt client
              (some old.id)) w.now.floorMicros = .ok w'.store.tables
        ∧ Loads (w.store.tables.users.find? (·.id == old.userId)) (some r.user))
      (fun _ _ => True) := by
  refine Act.now_bind ?_
  split
  · rintro _ ⟨⟩
  · rintro _ ⟨⟩
  · rename_i hstate
    refine Ensures.bind_mono (execute_ensures rfl hw) (fun _ _ _ => trivial) ?_
    rintro revoked w₁ ⟨h₁, hr⟩
    have ht₁ : (w.store.tables.revoke (·.id == old.id) w.now.towardStorageEpoch).2
        = w₁.store.tables := congrArg Prod.snd (Except.ok.inj hr)
    have hw₁ : w₁.store.Faithful := h₁.faithful hw
    -- another revocation may have come first, and then this one counts no row
    by_cases hz : revoked.changed = 0
    · simp only [hz, if_true]
      rintro _ ⟨⟩
    simp only [hz, if_false]
    refine Ensures.bind_mono (createSession_ensures hw₁) (fun _ _ _ => trivial) ?_
    rintro id w₂ ⟨h₂, ht₂⟩
    rw [← ht₁, h₁.now] at ht₂
    -- the owner is looked up behind both writes, which leave the users alone
    have husers : w₂.store.tables.users = w.store.tables.users :=
      (Database.insertSession_users ht₂).trans (Database.revoke_users _ _)
    refine Ensures.bind (Q := fun d w' => ∀ u, d = .ok u → w'.store.tables = w₂.store.tables
      ∧ Loads (w.store.tables.users.find? (·.id == old.userId)) u)
      (Database.attempt_ensures ((findUser_ensures rfl (h₂.faithful hw₁) rfl).mono ?_ ?_)) ?_
    · rintro u w₃ ⟨-, ht₃, hu⟩ _ ⟨⟩
      rw [husers] at hu
      exact ⟨ht₃, hu⟩
    · rintro (_ | _ | _) w₃ -
      · rintro _ ⟨⟩
      · trivial
      · trivial
    · rintro (_ | _ | u) w₃ hu
      · rintro _ ⟨⟩
      · rintro _ ⟨⟩
      · rintro _ ⟨⟩
        obtain ⟨ht₃, hload⟩ := hu _ rfl
        rw [ht₃]
        exact ⟨hstate, ht₂, hload⟩

/-- The row that is locked is the first one with the digest. -/
theorem lockSession_ensures {digest : Bytes} (hw : w.store.Faithful) :
    Ensures (fetch (.lockSession digest)) w
      (fun r w' => Within w w' ∧ w'.store.tables = w.store.tables
        ∧ r = (w.store.tables.sessions.find? (·.digest == digest)).map SessionRow.lockedCells)
      (fun _ _ => True) := by
  refine Database.mapFault_ensures ((Database.fetch_ensures rfl hw rfl).mono ?_
    fun _ _ _ => trivial)
  rintro _ w' ⟨hin, ht, rfl⟩
  exact ⟨hin, ht, Database.head?_select _ _ _⟩

theorem lockSession_fair {digest : Bytes} (hw : w.store.Fair) :
    Ensures (fetch (.lockSession digest)) w
      (fun r w' => Within w w'
        ∧ r = (w.store.tables.sessions.find? (·.digest == digest)).map SessionRow.lockedCells)
      (fun _ _ => False) := by
  refine Database.mapFault_ensures ((Database.fetch_fair rfl hw rfl).mono ?_ fun _ _ h => h)
  rintro _ w' ⟨hin, -, rfl⟩
  exact ⟨hin, Database.head?_select _ _ _⟩

theorem rotation_ensures (hw : w.store.Faithful) :
    Ensures (rotation limit oldSecret newSecret expiresAt client) w
      (fun d w' => ∀ r, d = .ok r → ∃ old, Rotates w.store.tables w.now oldSecret newSecret expiresAt
        client old r w'.store.tables)
      (fun _ _ => True) := by
  refine Ensures.bind_mono (execute_ensures rfl hw) (fun _ _ _ => trivial) ?_
  rintro o w₁ ⟨h₁, hr⟩
  have ht₁ : w.store.tables = w₁.store.tables := congrArg Prod.snd (Except.ok.inj hr)
  rw [ht₁, ← h₁.now]
  refine Ensures.bind (lockSession_ensures (h₁.faithful hw)) ?_
  rintro _ w₂ ⟨h₂, ht₂, rfl⟩
  rw [← ht₂, ← h₂.now]
  -- the row that is read is the first one with the digest, and its cells read back as its fields
  cases hfind : w₂.store.tables.sessions.find? (·.digest == RefreshSecret.digest oldSecret) with
  | none => exact fun _ h => nomatch h
  | some old =>
    show Ensures (Act.ofExcept ((readLockedSession old.lockedCells).mapError sessionFault) >>= _)
      _ _ _
    rw [readLockedSession_lockedCells]
    refine (replaceSession_ensures old (h₂.faithful (h₁.faithful hw))).mono ?_ fun _ _ h => h
    intro d w₃ hd r hr
    obtain ⟨hactive, hreplaced, howner⟩ := hd r hr
    exact ⟨old, hfind, hactive, hreplaced, howner⟩

/-! ## The whole -/

/-- A rotation that is answered with a session has been written and committed; any other one has been
undone. -/
theorem rotateSession_ensures (hidle : w.store.atStart = none) (hw : w.store.Faithful) :
    Ensures (rotateSession limit oldSecret newSecret expiresAt client) w
      (fun r w' => ((∃ old, Rotates w.store.tables w.now oldSecret newSecret expiresAt client old r
        w'.store.tables) ∧ w'.now = w.now) ∧ Committed w.store w'.store)
      (fun _ w' => RolledBack w.store w'.store) := by
  -- the database inside the transaction is the one outside it, for all that faithfulness asks
  have hopen : (Database.bounded .start w.store).Faithful := hw
  rw [rotateSession_eq]
  refine Database.inTransaction_ensures hidle hw.truthful ((rotation_within.and
    (rotation_ensures (w := { w with store := Database.bounded .start w.store }) hopen)).mono ?_
    fun _ _ h => h.1)
  rintro d w' ⟨hin, hd⟩
  exact ⟨hin, fun x hx => ⟨hd x hx, hin.now⟩⟩

/-- **A rotation is all or nothing.** Whatever the tables hold, and whichever of its statements fail,
are never answered or return altered rows: where it returns a session, the transaction has been
closed by one `COMMIT`, and in every other case the tables are those from before and nothing but one
`ROLLBACK` has closed it. -/
theorem rotateSession_all_or_nothing (w : World Database) (limit : Duration)
    (oldSecret newSecret : String) (expiresAt : Instant) (client : Client)
    (hidle : w.store.atStart = none) (htruthful : w.store.Truthful) :
    Ensures (rotateSession limit oldSecret newSecret expiresAt client) w
      (fun _ w' => Committed w.store w'.store) (fun _ w' => RolledBack w.store w'.store) := by
  rw [rotateSession_eq]
  refine (Database.inTransaction_ensures (Q := fun _ _ => True) hidle htruthful
    (rotation_within.mono ?_ fun _ _ h => h)).mono (fun _ _ h => h.2) fun _ _ h => h
  intro d w' hin
  exact ⟨hin, fun _ _ => trivial⟩

/-- A session whose owner is not there, in a database that refuses to insert and hangs at what is
sent next. -/
@[irreducible]
def orphaned : World Database where
  now := .epoch
  random := ⟨.ofSeed 1, none⟩
  events := []
  store :=
    { tables :=
        { sessions := [
            { id := ⟨.ofNat 1⟩, userId := ⟨.ofNat 2⟩, digest := RefreshSecret.digest "old",
              createdAt := .epoch, expiresAt := .ofSeconds 60, revokedAt := none,
              userAgent := none, ip := none, rotatedFrom := none }] }
      interferences := [(4, .fail (.dangling "sessions_user_id_fkey")), (5, .stall)] }

theorem rotateSession_all_or_nothing_orphaned :
    orphaned.store.atStart = none ∧ orphaned.store.Truthful
      ∧ Ensures (rotateSession defaultLockTimeout "old" "new" (.ofSeconds 120) ⟨none, none⟩) orphaned
          (fun _ w' => Committed orphaned.store w'.store)
          (fun _ w' => RolledBack orphaned.store w'.store) := by
  have hidle : orphaned.store.atStart = none := by
    unfold orphaned
    rfl
  have htruthful : orphaned.store.Truthful := by
    unfold Database.Truthful orphaned
    decide
  exact ⟨hidle, htruthful, rotateSession_all_or_nothing orphaned defaultLockTimeout "old" "new"
    (.ofSeconds 120) ⟨none, none⟩ hidle htruthful⟩

/-! ## A revoked session -/

theorem replaceSession_revoked {old : LockedSession} (hrev : old.revokedAt.isSome) :
    Ensures (replaceSession old newSecret expiresAt client) w
      (fun d w' => w' = w ∧ d = .error .revoked) (fun _ _ => False) := by
  refine Act.now_bind ?_
  unfold SessionState.at
  rw [if_pos hrev]
  exact ⟨rfl, rfl⟩

/-- In a fair database, a session that is revoked is found to be, and nothing else comes of it. -/
theorem rotation_revoked {old : SessionRow} (hw : w.store.Fair)
    (hfind : w.store.tables.sessions.find? (·.digest == RefreshSecret.digest oldSecret) = some old)
    (hrev : old.revokedAt.isSome) :
    Ensures (rotation limit oldSecret newSecret expiresAt client) w
      (fun d w' => w'.store.Fair ∧ d = .error .revoked) (fun _ _ => False) := by
  refine Ensures.bind_mono (execute_fair rfl hw rfl) (fun _ _ h => h) ?_
  rintro _ w₁ ⟨h₁, -, ht₁⟩
  rw [← ht₁] at hfind
  refine Ensures.bind (lockSession_fair (h₁.fair hw)) ?_
  rintro _ w₂ ⟨h₂, rfl⟩
  rw [hfind]
  show Ensures (Act.ofExcept ((readLockedSession old.lockedCells).mapError sessionFault) >>= _)
    _ _ _
  rw [readLockedSession_lockedCells]
  exact (replaceSession_revoked hrev).mono
    (fun _ _ ⟨hw₂, hd⟩ => ⟨by rw [hw₂]; exact h₂.fair (h₁.fair hw), hd⟩) fun _ _ h => h

theorem rotateSession_revoked {old : SessionRow} (hw : w.store.Fair)
    (hfind : w.store.tables.sessions.find? (·.digest == RefreshSecret.digest oldSecret) = some old)
    (hrev : old.revokedAt.isSome) :
    Ensures (rotateSession limit oldSecret newSecret expiresAt client) w (fun _ _ => False)
      (fun e _ => e = .refused .revoked) := by
  have hopen : (Database.bounded .start w.store).Fair := Database.bounded_fair hw
  rw [rotateSession_eq]
  refine (Database.inTransaction_fair (G := fun _ => False) hw (rotation_revoked
    (w := { w with store := Database.bounded .start w.store }) hopen hfind hrev)).mono ?_ ?_
  · rintro _ _ ⟨_, h, -⟩
    cases h
  · rintro _ _ (⟨_, _, h, rfl⟩ | h)
    · cases h
      rfl
    · exact h.elim

end SessionAuth.Relational
