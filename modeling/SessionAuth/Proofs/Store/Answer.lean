import SessionAuth.Proofs.Database.Constraints
import SessionAuth.Proofs.Store.Rotation

/-!
What a rotation answers, and the tables that it leaves.

The answer is worked out from the tables alone (`rotationAnswer`): which row has the digest of the
old secret, the state of that row, whether the new identifier is taken, and whether the owner can be
read. In this order the conditions are checked, although the last two are found out only behind a
write. A fair database answers a rotation so, and the tables behind it differ from those before by
one mark and one row.

Where tables may hold sessions without an owner, there is one more condition (`secretAnswer`): if
references are checked, the row for such a session is refused before anybody looks for the owner.
-/

set_option autoImplicit false

namespace SessionAuth.Relational

open Database (Cell Row QueryFault NewSession UserRow SessionRow Tables Statement Within Committed
  RolledBack)

variable {w : World Database} {limit : Duration} {oldSecret newSecret : String}
  {expiresAt : Instant} {client : Client} {t : Tables} {now : Instant} {old : SessionRow}
  {id : Uuid} {rest : RandomSource}

/-! ## The answer -/

/-- The session for an owner, who has to be there and to be readable. -/
def ownerAnswer (t : Tables) (owner : UserId) (id : SessionId) :
    Except SessionFault RotatedSession :=
  match t.users.find? (·.id == owner) with
  | none => .error .unknown
  | some row =>
    match loadRow row with
    | .ok user => .ok ⟨id, user⟩
    | .error flaw => .error (.database (UserFault.invalidEmail flaw).message)

/-- What the rotation of the session in a row answers. -/
def replacementAnswer (t : Tables) (now : Instant) (old : SessionRow) (id : SessionId) :
    Except SessionFault RotatedSession :=
  match SessionState.at old.expiresAt old.revokedAt now with
  | .revoked => .error .revoked
  | .expired => .error .expired
  | .active =>
    if t.sessions.any (·.id == id) then
      .error (sessionFault (.server (.duplicate "sessions_pkey")))
    else ownerAnswer t old.userId id

/-- What a rotation answers that draws an identifier. -/
def rotationAnswer (t : Tables) (now : Instant) (oldSecret : String) (id : SessionId) :
    Except SessionFault RotatedSession :=
  match t.sessions.find? (·.digest == RefreshSecret.digest oldSecret) with
  | none => .error .unknown
  | some old => replacementAnswer t now old id

/-! ### Sessions without an owner -/

/-- What the rotation of the session in a row answers, whether or not its owner has a row. -/
def lockedAnswer (t : Tables) (now : Instant) (old : SessionRow) (id : SessionId) :
    Except SessionFault RotatedSession :=
  match SessionState.at old.expiresAt old.revokedAt now with
  | .revoked => .error .revoked
  | .expired => .error .expired
  | .active =>
    if t.sessions.any (·.id == id) then
      .error (sessionFault (.server (.duplicate "sessions_pkey")))
    else if t.checksReferences && !t.users.any (·.id == old.userId) then
      .error (sessionFault (.server (.dangling "sessions_user_id_fkey")))
    else ownerAnswer t old.userId id

/-- What a rotation answers that draws an identifier, whether or not owners have rows. -/
def secretAnswer (t : Tables) (now : Instant) (oldSecret : String) (id : SessionId) :
    Except SessionFault RotatedSession :=
  match t.sessions.find? (·.digest == RefreshSecret.digest oldSecret) with
  | none => .error .unknown
  | some old => lockedAnswer t now old id

theorem secretAnswer_found {id : SessionId}
    (hfind : t.sessions.find? (·.digest == RefreshSecret.digest oldSecret) = some old) :
    secretAnswer t now oldSecret id = lockedAnswer t now old id := by
  unfold secretAnswer
  rw [hfind]

/-- Where the owner has a row, it makes no difference whether references are checked. -/
theorem secretAnswer_owned {id : SessionId}
    (howner : ∀ old, t.sessions.find? (·.digest == RefreshSecret.digest oldSecret) = some old →
      ∃ u ∈ t.users, u.id = old.userId) :
    secretAnswer t now oldSecret id = rotationAnswer t now oldSecret id := by
  unfold rotationAnswer
  cases hfind : t.sessions.find? (·.digest == RefreshSecret.digest oldSecret) with
  | none =>
    unfold secretAnswer
    rw [hfind]
  | some old =>
    have hany : t.users.any (·.id == old.userId) = true := by simpa using howner old hfind
    rw [secretAnswer_found hfind]
    unfold lockedAnswer replacementAnswer
    rw [hany, Bool.not_true, Bool.and_false]
    simp only [Bool.false_eq_true, if_false]

/-! ## The answer of the database -/

/-- What comes of looking for the owner is what the answer needs of it. -/
theorem findOwner_fair {owner : UserId} (id : SessionId) (hw : w.store.Fair)
    (husers : w.store.tables.users = t.users) :
    Ensures (Database.attempt (findUserById owner) :
        Act Database SessionFault (Except UserFault (Option User))) w
      (fun r w' => w'.store.Fair ∧ ownerAnswer t owner id = match r with
        | .ok (some user) => .ok ⟨id, user⟩
        | .ok none => .error .unknown
        | .error fault => .error (.database fault.message))
      (fun _ _ => False) := by
  unfold ownerAnswer
  rw [← husers]
  refine Database.attempt_ensures (((findUser_within rfl).and (findUser_fair rfl hw rfl)).mono ?_ ?_)
  · rintro r w' ⟨hin, -, -, hr⟩
    refine ⟨hin.fair hw, ?_⟩
    cases hfind : w.store.tables.users.find? (·.id == owner) with
    | none =>
      rw [hfind] at hr
      rw [hr]
    | some row =>
      rw [hfind] at hr
      obtain ⟨user, hload, rfl⟩ := hr
      simp only [hload]
  · rintro _ w' ⟨hin, row, flaw, hfind, hload, rfl⟩
    refine ⟨hin.fair hw, ?_⟩
    simp only [hfind, hload]

/-- Behind the revocation of a session, its successor is refused for its identifier, or for its owner
where references are checked. -/
theorem insertSuccessor {id : SessionId} {test : SessionRow → Bool} {moment : Instant}
    (hold : old ∈ t.sessions)
    (hnew : ∀ row ∈ t.sessions, row.digest ≠ RefreshSecret.digest newSecret) :
    (t.revoke test moment).2.insertSession
        (.of id old.userId (RefreshSecret.digest newSecret) expiresAt client (some old.id)) now
      = if t.sessions.any (·.id == id) then .error (.duplicate "sessions_pkey")
        else if t.checksReferences && !t.users.any (·.id == old.userId) then
          .error (.dangling "sessions_user_id_fkey")
        else .ok { t with
          sessions := t.sessions.map (SessionRow.revokedBy test moment) ++ [NewSession.row
            (.of id old.userId (RefreshSecret.digest newSecret) expiresAt client (some old.id))
            now] } := by
  -- what the insertion looks at is not changed by the revocation
  have hids : (t.revoke test moment).2.sessions.any (·.id == id)
      = t.sessions.any (·.id == id) := by
    rw [Database.revoke_sessions, List.any_map]
    exact congrArg t.sessions.any (funext fun r => by
      rw [Function.comp_apply, Database.revokedBy_marks.id])
  rw [Database.insertSession_linked ?_ ?_]
  · show (if (t.revoke test moment).2.sessions.any (·.id == id) then _ else _) = _
    rw [hids]
    rfl
  · intro _ hr
    obtain ⟨r, hr', rfl⟩ := List.mem_map.mp hr
    have hdigest := hnew r hr'
    rwa [← Database.revokedBy_marks.digest r] at hdigest
  · rintro _ ⟨⟩
    exact ⟨_, List.mem_map_of_mem hold, Database.revokedBy_marks.id old⟩

/-- An open session is counted where it is revoked. -/
theorem revokeById_changed {moment : Instant} (hold : old ∈ t.sessions)
    (hopen : old.revokedAt = none) : (t.revoke (·.id == old.id) moment).1.changed ≠ 0 := by
  intro hz
  have hrev := Database.revoke_changed_eq_zero_iff.mp hz old hold (beq_self_eq_true old.id)
  rw [hopen] at hrev
  cases hrev

theorem replaceSession_fair (hw : w.store.Fair) (hold : old ∈ w.store.tables.sessions)
    (hnew : ∀ row ∈ w.store.tables.sessions, row.digest ≠ RefreshSecret.digest newSecret)
    (hdraw : SessionState.at old.expiresAt old.revokedAt w.now = .active →
      Uuid.random? w.random = some (id, rest)) :
    Ensures (replaceSession ⟨old.id, old.userId, old.expiresAt, old.revokedAt⟩ newSecret expiresAt
        client) w
      (fun d w' => w'.store.Fair ∧ d = lockedAnswer w.store.tables w.now old ⟨id⟩)
      (fun e _ => ∃ fault, lockedAnswer w.store.tables w.now old ⟨id⟩ = .error fault
        ∧ e = .refused fault) := by
  unfold lockedAnswer
  refine Act.now_bind ?_
  show Ensures (match SessionState.at old.expiresAt old.revokedAt w.now with
    | .revoked => _ | .expired => _ | .active => _) _ _ _
  cases hstate : SessionState.at old.expiresAt old.revokedAt w.now with
  | revoked => exact ⟨hw, rfl⟩
  | expired => exact ⟨hw, rfl⟩
  | active =>
    have hrun := execute_fair (o := (w.store.tables.revoke (·.id == old.id)
      w.now.towardStorageEpoch).1) (t := (w.store.tables.revoke (·.id == old.id)
      w.now.towardStorageEpoch).2) (s := .revokeById old.id w.now.towardStorageEpoch) rfl hw rfl
    refine Ensures.bind_mono (hrun.and (execute_random rfl)) (fun _ _ h => h.1.elim) ?_
    rintro o w₁ ⟨⟨h₁, ho, ht₁⟩, hr₁⟩
    have hcounted : o.changed ≠ 0 := by
      rw [ho]
      exact revokeById_changed hold (revokedAt_of_active hstate)
    rw [if_neg hcounted]
    refine Ensures.bind_mono (createSession_fair (h₁.fair hw) (hr₁ ▸ hdraw hstate)) ?_ ?_
    · rintro _ _ ⟨fault, hfault, rfl⟩
      rw [ht₁, insertSuccessor hold hnew] at hfault
      split at hfault
      · cases hfault
        exact ⟨_, if_pos ‹_›, rfl⟩
      rename_i hfree
      split at hfault
      · cases hfault
        exact ⟨_, (if_neg hfree).trans (if_pos ‹_›), rfl⟩
      · cases hfault
    · rintro _ w₂ ⟨rfl, h₂, ht₂⟩
      rw [ht₁, insertSuccessor hold hnew] at ht₂
      split at ht₂
      · cases ht₂
      rename_i hfree
      split at ht₂
      · cases ht₂
      rename_i hreferred
      have husers : w₂.store.tables.users = w.store.tables.users := by
        rw [← Except.ok.inj ht₂]
      simp only [if_neg hfree, if_neg hreferred]
      refine Ensures.bind_mono (findOwner_fair ⟨id⟩ (h₂.fair (h₁.fair hw)) husers)
        (fun _ _ h => h.elim) ?_
      rintro (fault | _ | user) w₃ ⟨h₃, hanswer⟩ <;> exact ⟨h₃, hanswer.symm⟩

/-- A fair database comes to the answer of the tables. -/
theorem rotation_fair (hw : w.store.Fair)
    (hnew : ∀ row ∈ w.store.tables.sessions, row.digest ≠ RefreshSecret.digest newSecret)
    (hdraw : ∀ old, w.store.tables.sessions.find? (·.digest == RefreshSecret.digest oldSecret)
      = some old → SessionState.at old.expiresAt old.revokedAt w.now = .active →
      Uuid.random? w.random = some (id, rest)) :
    Ensures (rotation limit oldSecret newSecret expiresAt client) w
      (fun d w' => w'.store.Fair ∧ d = secretAnswer w.store.tables w.now oldSecret ⟨id⟩)
      (fun e _ => ∃ fault, secretAnswer w.store.tables w.now oldSecret ⟨id⟩ = .error fault
        ∧ e = .refused fault) := by
  refine Ensures.bind_mono ((execute_fair rfl hw rfl).and (execute_random rfl))
    (fun _ _ h => h.1.elim) ?_
  rintro _ w₁ ⟨⟨h₁, -, ht₁⟩, hr₁⟩
  have hw₁ : w₁.store.Fair := h₁.fair hw
  refine Ensures.bind_mono (((lockSession_ensures hw₁.faithful).and (lockSession_fair hw₁)).and
    (fetch_random rfl)) (fun _ _ h => h.1.2.elim) ?_
  rintro _ w₂ ⟨⟨⟨h₂, ht₂, rfl⟩, -⟩, hr₂⟩
  have ht : w₂.store.tables = w.store.tables := ht₂.trans ht₁
  rw [← ht, ← h₁.now, ← h₂.now, ← hr₁, ← hr₂] at hdraw
  rw [← ht] at hnew ⊢
  rw [← h₁.now, ← h₂.now, ← ht₂]
  unfold secretAnswer
  cases hfind : w₂.store.tables.sessions.find? (·.digest == RefreshSecret.digest oldSecret) with
  | none => exact ⟨h₂.fair hw₁, rfl⟩
  | some old =>
    show Ensures (Act.ofExcept ((readLockedSession old.lockedCells).mapError sessionFault) >>= _)
      _ _ _
    rw [readLockedSession_lockedCells]
    exact replaceSession_fair (h₂.fair hw₁) (List.mem_of_find?_eq_some hfind) hnew
      (hdraw old hfind)

/-- **In a fair database, a rotation is answered as the tables say**, whatever they hold. -/
theorem rotateSession_secretAnswer (hw : w.store.Fair)
    (hnew : ∀ row ∈ w.store.tables.sessions, row.digest ≠ RefreshSecret.digest newSecret)
    (hdraw : ∀ old, w.store.tables.sessions.find? (·.digest == RefreshSecret.digest oldSecret)
      = some old → SessionState.at old.expiresAt old.revokedAt w.now = .active →
      Uuid.random? w.random = some (id, rest)) :
    Ensures (rotateSession limit oldSecret newSecret expiresAt client) w
      (fun r _ => secretAnswer w.store.tables w.now oldSecret ⟨id⟩ = .ok r)
      (fun e _ => ∃ fault, secretAnswer w.store.tables w.now oldSecret ⟨id⟩ = .error fault
        ∧ e = .refused fault) := by
  have hopen : (Database.bounded .start w.store).Fair := Database.bounded_fair hw
  rw [rotateSession_eq]
  refine (Database.inTransaction_fair hw (rotation_fair
    (w := { w with store := Database.bounded .start w.store }) hopen hnew hdraw)).mono ?_ ?_
  · rintro r _ ⟨_, hr, -⟩
    exact hr.symm
  · rintro _ _ (⟨fault, _, hfault, rfl⟩ | h)
    · exact ⟨fault, hfault.symm, rfl⟩
    · exact h

/-- The same, where the owner of the session has a row. -/
theorem rotateSession_owned (hw : w.store.Fair)
    (howner : ∀ old, w.store.tables.sessions.find? (·.digest == RefreshSecret.digest oldSecret)
      = some old → ∃ u ∈ w.store.tables.users, u.id = old.userId)
    (hnew : ∀ row ∈ w.store.tables.sessions, row.digest ≠ RefreshSecret.digest newSecret)
    (hdraw : ∀ old, w.store.tables.sessions.find? (·.digest == RefreshSecret.digest oldSecret)
      = some old → SessionState.at old.expiresAt old.revokedAt w.now = .active →
      Uuid.random? w.random = some (id, rest)) :
    Ensures (rotateSession limit oldSecret newSecret expiresAt client) w
      (fun r _ => rotationAnswer w.store.tables w.now oldSecret ⟨id⟩ = .ok r)
      (fun e _ => ∃ fault, rotationAnswer w.store.tables w.now oldSecret ⟨id⟩ = .error fault
        ∧ e = .refused fault) := by
  rw [← secretAnswer_owned howner]
  exact rotateSession_secretAnswer hw hnew hdraw

/-- Where the constraints are met, every owner has a row. -/
theorem rotateSession_fair (hw : w.store.Fair) (hc : w.store.tables.Constrained)
    (hnew : ∀ row ∈ w.store.tables.sessions, row.digest ≠ RefreshSecret.digest newSecret)
    (hdraw : Uuid.random? w.random = some (id, rest)) :
    Ensures (rotateSession limit oldSecret newSecret expiresAt client) w
      (fun r _ => rotationAnswer w.store.tables w.now oldSecret ⟨id⟩ = .ok r)
      (fun e _ => ∃ fault, rotationAnswer w.store.tables w.now oldSecret ⟨id⟩ = .error fault
        ∧ e = .refused fault) :=
  rotateSession_owned hw (fun old hold => hc.owners old (List.mem_of_find?_eq_some hold)) hnew
    fun _ _ _ => hdraw

/-! ## The answer and the tables -/

theorem rotationAnswer_id {r : RotatedSession} {id : SessionId}
    (h : rotationAnswer t now oldSecret id = .ok r) : r.sessionId = id := by
  unfold rotationAnswer replacementAnswer ownerAnswer at h
  repeat' split at h
  all_goals cases h
  rfl

/-- The tables behind the rotation of the session in a row: the row is marked, and one row is new. -/
def rotatedTables (t : Tables) (now : Instant) (old : SessionRow) (id : SessionId)
    (newSecret : String) (expiresAt : Instant) (client : Client) : Tables :=
  { t with
    sessions := t.sessions.map (fun row =>
        if row = old then { row with revokedAt := some now.towardStorageEpoch } else row)
      ++ [{
        id
        userId := old.userId
        digest := RefreshSecret.digest newSecret
        createdAt := now.floorMicros
        expiresAt := expiresAt.towardStorageEpoch
        revokedAt := none
        userAgent := client.userAgent
        ip := client.ip.map IpAddress.toText
        rotatedFrom := some old.id }] }

/-- Where identifiers are unique, a rotation is one mark and one row. -/
theorem Rotates.tables_eq {t' : Tables} {r : RotatedSession} (hc : t.Constrained)
    (h : Rotates t now oldSecret newSecret expiresAt client old r t') :
    t' = rotatedTables t now old r.sessionId newSecret expiresAt client := by
  rw [(Database.insertSession_ok h.replaced).1, Database.revoke_sessions]
  unfold rotatedTables
  have hmark : ∀ row ∈ t.sessions, row.revokedBy (·.id == old.id) now.towardStorageEpoch
      = if row = old then { row with revokedAt := some now.towardStorageEpoch } else row := by
    intro row hrow
    unfold SessionRow.revokedBy
    by_cases heq : row = old
    · rw [heq, h.revokedAt_eq]
      simp
    · have hid : row.id ≠ old.id := fun hid => heq (hc.eq_of_id hrow h.mem hid)
      simp [heq, hid]
  rw [List.map_congr_left hmark]
  rfl

/-- **A rotation does what its protocol says.** In a fair database whose tables meet their constraints,
where the new secret has no session yet: it is answered as the tables say. Behind an answer with a
session, the tables are those from before with the one row marked and the one row added, and
committed; behind every other answer they are those from before. -/
theorem rotateSession_answers (w : World Database) (limit : Duration)
    (oldSecret newSecret : String) (expiresAt : Instant) (client : Client) (id : Uuid)
    (rest : RandomSource) (hidle : w.store.atStart = none) (hfair : w.store.Fair)
    (hconstrained : w.store.tables.Constrained)
    (hnew : ∀ row ∈ w.store.tables.sessions, row.digest ≠ RefreshSecret.digest newSecret)
    (hdraw : Uuid.random? w.random = some (id, rest)) :
    Ensures (rotateSession limit oldSecret newSecret expiresAt client) w
      (fun r w' => rotationAnswer w.store.tables w.now oldSecret ⟨id⟩ = .ok r
        ∧ (∃ old, w.store.tables.sessions.find? (·.digest == RefreshSecret.digest oldSecret)
            = some old
          ∧ w'.store.tables
            = rotatedTables w.store.tables w.now old ⟨id⟩ newSecret expiresAt client)
        ∧ Committed w.store w'.store)
      (fun e w' => ∃ fault, rotationAnswer w.store.tables w.now oldSecret ⟨id⟩ = .error fault
        ∧ e = .refused fault ∧ w'.store.settled = w.store.tables) := by
  refine ((rotateSession_ensures hidle hfair.faithful).and
    (rotateSession_fair hfair hconstrained hnew hdraw)).mono ?_ ?_
  · rintro r w' ⟨⟨⟨⟨old, hrotates⟩, -⟩, hcommitted⟩, hr⟩
    refine ⟨hr, ⟨old, hrotates.found, ?_⟩, hcommitted⟩
    rw [hrotates.tables_eq hconstrained, rotationAnswer_id hr]
  · rintro e w' ⟨hundone, fault, hfault, rfl⟩
    exact ⟨fault, hfault, rfl, hundone.settled⟩

/-! ### An identifier that is free, and one that is taken -/

/-- The user of a household. -/
def tenantRow : UserRow where
  id := ⟨.ofNat 2⟩
  email := "a@example.com"
  passwordHash := ""
  emailVerifiedAt := none
  createdAt := .epoch
  updatedAt := .epoch

/-- An active session for the secret `old`, under an identifier. -/
def heldRow (held : Uuid) : SessionRow where
  id := ⟨held⟩
  userId := tenantRow.id
  digest := RefreshSecret.digest "old"
  createdAt := .epoch
  expiresAt := .ofSeconds 60
  revokedAt := none
  userAgent := none
  ip := none
  rotatedFrom := none

/-- One user and one session. -/
@[irreducible]
def household (held : Uuid) : World Database where
  now := .ofSeconds 30
  random := ⟨.ofSeed 1, none⟩
  events := []
  store := { tables := { users := [tenantRow], sessions := [heldRow held] } }

/-- The identifier that is drawn next in a household. -/
def nextDrawn : Uuid := .ofNat 0xbf3e51c889be42d6908d80cb62a5826c

theorem household_tables (held : Uuid) :
    (household held).store.tables = { users := [tenantRow], sessions := [heldRow held] } := by
  unfold household
  rfl

theorem household_constrained (held : Uuid) : (household held).store.tables.Constrained := by
  rw [household_tables]
  refine ⟨List.nodup_singleton _, List.nodup_singleton _, List.nodup_singleton _,
    List.nodup_singleton _, ?_, ?_⟩
  · intro s hs
    rw [List.mem_singleton.mp hs]
    exact ⟨tenantRow, List.mem_singleton_self _, rfl⟩
  · intro s hs p hp
    rw [List.mem_singleton.mp hs] at hp
    cases hp

theorem household_new (held : Uuid) :
    ∀ row ∈ (household held).store.tables.sessions, row.digest ≠ RefreshSecret.digest "new" := by
  rw [household_tables]
  intro row hrow
  rw [List.mem_singleton.mp hrow]
  show RefreshSecret.digest "old" ≠ RefreshSecret.digest "new"
  decide +kernel

theorem household_idle (held : Uuid) :
    (household held).store.atStart = none ∧ (household held).store.Fair := by
  unfold household
  exact ⟨rfl, rfl, rfl⟩

theorem household_draws (held : Uuid) :
    ∃ rest, Uuid.random? (household held).random = some (nextDrawn, rest) := by
  have hdrawn : Uuid.marked (((ByteStream.ofSeed 1).take 16).reverse) = nextDrawn := by
    decide +kernel
  unfold household
  rw [← hdrawn]
  exact ⟨_, rfl⟩

/-- A household whose session keeps the next identifier free. -/
def roomy : World Database := household (.ofNat 1)

/-- A household whose session has the next identifier already. -/
def crowded : World Database := household nextDrawn

theorem rotateSession_answers_roomy :
    ∃ rest, roomy.store.atStart = none ∧ roomy.store.Fair ∧ roomy.store.tables.Constrained
      ∧ (∀ row ∈ roomy.store.tables.sessions, row.digest ≠ RefreshSecret.digest "new")
      ∧ Uuid.random? roomy.random = some (nextDrawn, rest)
      ∧ Ensures (rotateSession defaultLockTimeout "old" "new" (.ofSeconds 120) ⟨none, none⟩) roomy
          (fun _ w' => w'.store.tables = rotatedTables roomy.store.tables roomy.now
            (heldRow (.ofNat 1)) ⟨nextDrawn⟩ "new" (.ofSeconds 120) ⟨none, none⟩)
          (fun _ _ => False) := by
  obtain ⟨hidle, hfair⟩ := household_idle (.ofNat 1)
  obtain ⟨rest, hdraw⟩ := household_draws (.ofNat 1)
  have hc := household_constrained (.ofNat 1)
  have hnew := household_new (.ofNat 1)
  have hfound : roomy.store.tables.sessions.find? (·.digest == RefreshSecret.digest "old")
      = some (heldRow (.ofNat 1)) := by decide +kernel
  have hok : (rotationAnswer roomy.store.tables roomy.now "old" ⟨nextDrawn⟩).isOk = true := by
    decide +kernel
  refine ⟨rest, hidle, hfair, hc, hnew, hdraw, ?_⟩
  refine (rotateSession_answers roomy defaultLockTimeout "old" "new" (.ofSeconds 120) ⟨none, none⟩
    nextDrawn rest hidle hfair hc hnew hdraw).mono ?_ ?_
  · rintro r w' ⟨-, ⟨old, hold, ht⟩, -⟩
    rw [hfound] at hold
    rw [ht, ← Option.some.inj hold]
  · rintro e w' ⟨fault, hfault, -⟩
    rw [hfault] at hok
    cases hok

/-- Where the identifier that is drawn belongs to a session already, an active session whose owner can
be read is not rotated. -/
theorem rotateSession_identifier_taken :
    crowded.store.atStart = none ∧ crowded.store.Fair ∧ crowded.store.tables.Constrained
      ∧ (∀ row ∈ crowded.store.tables.sessions, row.digest ≠ RefreshSecret.digest "new")
      ∧ (∃ rest, Uuid.random? crowded.random = some (nextDrawn, rest))
      ∧ crowded.store.tables.sessions.find? (·.digest == RefreshSecret.digest "old")
          = some (heldRow nextDrawn)
      ∧ SessionState.at (heldRow nextDrawn).expiresAt (heldRow nextDrawn).revokedAt crowded.now
          = .active
      ∧ crowded.store.tables.users.find? (·.id == (heldRow nextDrawn).userId) = some tenantRow
      ∧ (loadRow tenantRow).isOk = true
      ∧ (rotateSession defaultLockTimeout "old" "new" (.ofSeconds 120) ⟨none, none⟩ crowded).1
          = .error (.refused (sessionFault (.server (.duplicate "sessions_pkey")))) := by
  obtain ⟨hidle, hfair⟩ := household_idle nextDrawn
  refine ⟨hidle, hfair, household_constrained _, household_new _, household_draws _, ?_, ?_, ?_, ?_,
    ?_⟩
  all_goals decide +kernel

end SessionAuth.Relational
