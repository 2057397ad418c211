import SessionAuth.Proofs.Service.Refresh
import SessionAuth.Proofs.Store.Validation

/-!
What comes of a session whose owner is missing.

Such a session is of no use to anybody, and the store in memory rejects its secret. So does a
validation in the tables. A rotation in the tables looks for the owner too, and would reject the secret
if it found none. But it adds the new session first, and where references are checked the database
refuses that: a rotation that ought to be rejected ends with a fault of the database, and the refresh
with an internal error (`orphan_not_rejected`). Nothing is changed in any case (`orphans_answered`).
-/

set_option autoImplicit false

namespace SessionAuth

open Database (SessionRow Tables)

variable {secret newSecret raw : String} {expiresAt now : Instant} {client : Client} {id : Uuid}
  {rest : RandomSource}

/-! ## In the tables -/

namespace Relational

variable {w : World Database} {limit : Duration} {t : Tables} {old : SessionRow}

/-- **An orphaned session**: the session of a secret is active, and its owner has no row. -/
structure Orphaned (t : Tables) (now : Instant) (secret : String) (old : SessionRow) : Prop where
  found : t.sessions.find? (·.digest == RefreshSecret.digest secret) = some old
  active : SessionState.at old.expiresAt old.revokedAt now = .active
  ownerless : ∀ u ∈ t.users, u.id ≠ old.userId

/-- What the rotation of an orphaned session fails with. -/
def orphanFault (t : Tables) (id : SessionId) : SessionFault :=
  if t.sessions.any (·.id == id) then sessionFault (.server (.duplicate "sessions_pkey"))
  else if t.checksReferences then sessionFault (.server (.dangling "sessions_user_id_fkey"))
  else .unknown

/-- An orphaned session is rejected only where the identifier is free and references are not checked. -/
theorem orphanFault_isRejection_iff {id : SessionId} :
    (orphanFault t id).isRejection = true
      ↔ (∀ row ∈ t.sessions, row.id ≠ id) ∧ t.checksReferences = false := by
  unfold orphanFault
  by_cases htaken : t.sessions.any (·.id == id) = true
  · rw [if_pos htaken]
    obtain ⟨row, hrow, hid⟩ := List.any_eq_true.mp htaken
    exact ⟨nofun, fun h => absurd (beq_iff_eq.mp hid) (h.1 row hrow)⟩
  · rw [if_neg htaken]
    have hfree : ∀ row ∈ t.sessions, row.id ≠ id := by simpa using htaken
    cases t.checksReferences with
    | true => exact ⟨nofun, fun h => nomatch h.2⟩
    | false => exact ⟨fun _ => ⟨hfree, rfl⟩, fun _ => rfl⟩

namespace Orphaned

/-- The insertion of the new session comes before the search for the owner, and it fails first. -/
theorem secretAnswer_eq (h : Orphaned t now secret old) (id : SessionId) :
    secretAnswer t now secret id = .error (orphanFault t id) := by
  have hany : t.users.any (·.id == old.userId) = false := by simpa using h.ownerless
  have hnone : t.users.find? (·.id == old.userId) = none := by simpa using h.ownerless
  have howner : ownerAnswer t old.userId id = .error .unknown := by
    unfold ownerAnswer
    rw [hnone]
  rw [secretAnswer_found h.found]
  unfold lockedAnswer orphanFault
  -- what the owner answers is the last of three tests, after the identifier and the reference
  rw [h.active, hany, howner, Bool.not_false, Bool.and_true]
  dsimp only
  split
  · rfl
  · split <;> rfl

/-- The row is the one that a validation selects, as all rows before it have other digests. -/
theorem selected?_eq (h : Orphaned t now secret old) :
    selected? t now.floorMicros secret = some old := by
  obtain ⟨hdigest, before, behind, hsplit, hbefore⟩ := List.find?_eq_some_iff_append.mp h.found
  obtain ⟨hopen, hlt⟩ := stateAt_active_iff.mp h.active
  refine List.find?_eq_some_iff_append.mpr ⟨?_, before, behind, hsplit, ?_⟩
  · exact isSelected_iff.mpr ⟨beq_iff_eq.mp hdigest, hopen, Instant.floorMicros_lt_of_lt hlt⟩
  · intro row hrow
    have hother := hbefore row hrow
    rw [Bool.not_eq_true', beq_eq_false_iff_ne] at hother
    rw [Bool.not_eq_true', Bool.eq_false_iff]
    exact fun hselected => hother (isSelected_iff.mp hselected).1

theorem validated?_eq (h : Orphaned t now secret old) :
    validated? t now.floorMicros secret = none := by
  have hnone : t.users.find? (·.id == old.userId) = none := by simpa using h.ownerless
  rw [validated?, h.selected?_eq, Option.bind_some, owner?, hnone]
  rfl

end Orphaned

/-- **Nothing hinders a rotation in the tables**: the database is fair, the new secret is new, and an
identifier is drawn. -/
structure Unhindered (w : World Database) (newSecret : String) (id : Uuid) : Prop where
  idle : w.store.atStart = none
  fair : w.store.Fair
  new : ∀ row ∈ w.store.tables.sessions, row.digest ≠ RefreshSecret.digest newSecret
  draws : ∃ rest, Uuid.random? w.random = some (id, rest)

/-- The rotation of an orphaned session fails, and is undone. -/
theorem rotateSession_orphaned (hw : Unhindered w newSecret id)
    (h : Orphaned w.store.tables w.now secret old) :
    Ensures (rotateSession limit secret newSecret expiresAt client) w (fun _ _ => False)
      (fun e w' => e = .refused (orphanFault w.store.tables ⟨id⟩)
        ∧ w'.store.settled = w.store.tables) := by
  obtain ⟨rest, hdraw⟩ := hw.draws
  refine ((rotateSession_ensures hw.idle hw.fair.faithful).and
    (rotateSession_secretAnswer hw.fair hw.new fun _ _ _ => hdraw)).mono ?_ ?_
  -- there is no answer, since the one that the tables have for the secret is a fault
  · rintro _ _ ⟨-, hanswer⟩
    cases hanswer.symm.trans (h.secretAnswer_eq ⟨id⟩)
  · rintro _ _ ⟨hundone, fault, hanswer, rfl⟩
    rw [Except.error.inj (hanswer.symm.trans (h.secretAnswer_eq ⟨id⟩))]
    exact ⟨rfl, hundone.settled⟩

/-- A validation rejects the secret of an orphaned session. -/
theorem validateSession_orphaned (hw : w.store.Fair)
    (h : Orphaned w.store.tables w.now secret old) :
    (validateSession secret w).1 = .error (.refused .unknown) := by
  rw [validateSession_result hw, h.validated?_eq]

end Relational

/-! ## In memory -/

/-- **An orphaned session in memory.** -/
structure MemoryStore.Orphaned (m : MemoryStore) (now : Instant) (secret : String)
    (old : Session) : Prop where
  found : m.sessionOf? secret = some old
  active : old.state now = .active
  ownerless : ∀ u ∈ m.users, u.id ≠ old.userId

/-- The store in memory looks for the owner before it changes anything, and rejects the secret. -/
theorem MemoryStore.rotateSession_orphaned {w : World MemoryStore} {old : Session}
    (hcalm : w.store.misbehaviours.rotateSession = none) (h : w.store.Orphaned w.now secret old) :
    Ensures (store.rotateSession secret newSecret expiresAt client) w (fun _ _ => False)
      (fun e w' => e = .refused .unknown ∧ w'.store.users = w.store.users
        ∧ w'.store.sessions = w.store.sessions) := by
  have hnone : w.store.users.find? (·.id == old.userId) = none := by simpa using h.ownerless
  have hanswer : w.store.rotationAnswer w.now secret = .error .unknown := by
    simp only [rotationAnswer, h.found, h.active, hnone]
  refine (rotateSession_answered hcalm).mono ?_ ?_
  · rintro _ _ ⟨_, _, hdone, -⟩
    cases hdone.symm.trans hanswer
  · rintro _ _ ⟨fault, hfault, rfl, rfl⟩
    rw [Except.error.inj (hfault.symm.trans hanswer)]
    exact ⟨rfl, rfl, rfl⟩

/-! ## Refreshing -/

/-- **A refresh gets as far as the store**, to which it presents a secret and a new one. -/
structure ReachesStore {σ : Type} (settings : AuthSettings) (world : World σ) (raw secret : String)
    (newSecret : String) (rest : RandomSource) : Prop where
  presents : Presents raw secret
  draws : RefreshSecret.draw? world.random = some (newSecret, rest)
  dated : world.now.after? settings.refreshLifetime ≠ none

theorem TableService.refresh_orphaned {s : TableService} {st : ServiceState Database}
    {old : SessionRow} (hreaches : ReachesStore s.settings st.world raw secret newSecret rest)
    (hw : Relational.Unhindered { st.world with random := rest } newSecret id)
    (h : Relational.Orphaned st.world.store.tables st.world.now secret old) :
    Ensures (s.service.refresh raw client) st (fun _ _ => False)
      (fun e st' => e = .refused (if (Relational.orphanFault st.world.store.tables ⟨id⟩).isRejection
          then .invalidRefreshToken else .internal)
        ∧ st'.tables = st.world.store.tables) := by
  refine (Service.refresh_refused (G := fun fault w' =>
    fault = Relational.orphanFault st.world.store.tables ⟨id⟩
      ∧ w'.store.settled = st.world.store.tables) hreaches.presents hreaches.draws hreaches.dated
    fun expires => ?_).mono (fun _ _ h => h) ?_
  · refine (Relational.rotateSession_orphaned hw h).mono (fun _ _ h => h) ?_
    rintro _ w' ⟨rfl, hsettled⟩
    exact ⟨_, ⟨rfl, hsettled⟩, rfl⟩
  · rintro _ st' ⟨_, w', ⟨rfl, hsettled⟩, hstore, rfl⟩
    refine ⟨rfl, ?_⟩
    show st'.world.store.settled = _
    rw [hstore, hsettled]

theorem MemoryStore.refresh_orphaned {signer : TokenSigner} {settings : AuthSettings}
    {st : ServiceState MemoryStore} {old : Session}
    (hreaches : ReachesStore settings st.world raw secret newSecret rest)
    (hcalm : st.world.store.misbehaviours.rotateSession = none)
    (h : st.world.store.Orphaned st.world.now secret old) :
    Ensures (Service.refresh ⟨store, signer, settings⟩ raw client) st (fun _ _ => False)
      (fun e st' => e = .refused .invalidRefreshToken
        ∧ st'.world.store.users = st.world.store.users
        ∧ st'.world.store.sessions = st.world.store.sessions) := by
  refine (Service.refresh_refused (G := fun fault w' => fault = .unknown
      ∧ w'.store.users = st.world.store.users ∧ w'.store.sessions = st.world.store.sessions)
    hreaches.presents hreaches.draws hreaches.dated fun expires => ?_).mono (fun _ _ h => h) ?_
  · refine (rotateSession_orphaned (w := { st.world with random := rest }) hcalm h).mono
      (fun _ _ h => h) ?_
    rintro _ w' ⟨rfl, hsame⟩
    exact ⟨_, ⟨rfl, hsame⟩, rfl⟩
  · rintro _ st' ⟨_, w', ⟨rfl, husers, hsessions⟩, hstore, rfl⟩
    refine ⟨rfl, ?_⟩
    rw [hstore]
    exact ⟨husers, hsessions⟩

/-! ## The whole -/

/-- **What comes of an orphaned session**, for every store state, clock and secret, where nothing else
stands in the way. In the tables, a validation rejects the secret. A rotation rejects it only where
references are not checked, and is refused by the database otherwise; accordingly, a refresh fails with
an invalid refresh token or with an internal error. In memory, a rotation rejects the secret, and a
refresh says that it is invalid. Neither changes a user or a session anywhere. -/
theorem orphans_answered (secret newSecret : String) (client : Client) :
    (∀ (w : World Database) (old : SessionRow) (id : Uuid),
      Relational.Unhindered w newSecret id → Relational.Orphaned w.store.tables w.now secret old →
        (∀ limit expiresAt,
          (Relational.rotateSession limit secret newSecret expiresAt client w).1
              = .error (.refused (Relational.orphanFault w.store.tables ⟨id⟩))
            ∧ (Relational.rotateSession limit secret newSecret expiresAt client w).2.store.settled
              = w.store.tables)
        ∧ (Relational.validateSession secret w).1 = .error (.refused .unknown))
      ∧ (∀ (s : TableService) (st : ServiceState Database) (raw : String) (rest : RandomSource)
        (old : SessionRow) (id : Uuid),
        ReachesStore s.settings st.world raw secret newSecret rest →
        Relational.Unhindered { st.world with random := rest } newSecret id →
        Relational.Orphaned st.world.store.tables st.world.now secret old →
          (s.service.refresh raw client st).1
              = .error (.refused (if (Relational.orphanFault st.world.store.tables ⟨id⟩).isRejection
                then .invalidRefreshToken else .internal))
            ∧ (s.service.refresh raw client st).2.tables = st.world.store.tables)
      ∧ (∀ (w : World MemoryStore) (old : Session) (expiresAt : Instant),
        w.store.misbehaviours.rotateSession = none → w.store.Orphaned w.now secret old →
          (MemoryStore.store.rotateSession secret newSecret expiresAt client w).1
              = .error (.refused .unknown)
            ∧ (MemoryStore.store.rotateSession secret newSecret expiresAt client w).2.store.users
              = w.store.users
            ∧ (MemoryStore.store.rotateSession secret newSecret expiresAt client w).2.store.sessions
              = w.store.sessions)
      ∧ ∀ (signer : TokenSigner) (settings : AuthSettings) (st : ServiceState MemoryStore)
        (raw : String) (rest : RandomSource) (old : Session),
        ReachesStore settings st.world raw secret newSecret rest →
        st.world.store.misbehaviours.rotateSession = none →
        st.world.store.Orphaned st.world.now secret old →
          (Service.refresh ⟨MemoryStore.store, signer, settings⟩ raw client st).1
              = .error (.refused .invalidRefreshToken)
            ∧ (Service.refresh ⟨MemoryStore.store, signer, settings⟩ raw client st).2.world.store.users
              = st.world.store.users
            ∧ (Service.refresh ⟨MemoryStore.store, signer, settings⟩ raw client
                st).2.world.store.sessions = st.world.store.sessions := by
  refine ⟨fun w old id hw h => ⟨fun limit expiresAt => ?_,
    Relational.validateSession_orphaned hw.fair h⟩, fun s st raw rest old id hreaches hw h => ?_,
    fun w old expiresAt hcalm h => ?_, fun signer settings st raw rest old hreaches hcalm h => ?_⟩
  · exact (Relational.rotateSession_orphaned hw h).failed
  · exact (TableService.refresh_orphaned hreaches hw h).failed
  · exact (MemoryStore.rotateSession_orphaned hcalm h).failed
  · exact (MemoryStore.refresh_orphaned hreaches hcalm h).failed

/-! ### A session that is left behind -/

/-- A service on the tables. -/
def plainService : TableService := ⟨⟨[], "issuer"⟩, {}, Relational.defaultLockTimeout⟩

/-- Its state where there is a session, but no user. -/
@[irreducible]
def stray : ServiceState Database where
  world :=
    { now := .ofSeconds 30
      random := ⟨.ofSeed 1, none⟩
      events := []
      store := { tables := { sessions := [Relational.heldRow (.ofNat 1)] } } }
  pool := ⟨⟨.standard, HashCost.flaw?_standard⟩, 1⟩
  dummyHash := none

/-- The same in memory. -/
@[irreducible]
def strayInMemory : ServiceState MemoryStore where
  world :=
    { now := .ofSeconds 30
      random := ⟨.ofSeed 1, none⟩
      events := []
      store := { sessions := [Relational.sessionIn (Relational.heldRow (.ofNat 1))] } }
  pool := ⟨⟨.standard, HashCost.flaw?_standard⟩, 1⟩
  dummyHash := none

/-- The secret that is drawn next. -/
def straySecret : String := RefreshSecret.ofBytes ((ByteStream.ofSeed 1).take 32)

/-- What is left of the source behind it. -/
def strayRest : RandomSource := ⟨(ByteStream.ofSeed 1).drop 32, none⟩

/-- The identifier that is drawn then. -/
def strayId : Uuid := Uuid.marked ((strayRest.bytes.take 16).reverse)

theorem stray_orphaned : Relational.Orphaned stray.world.store.tables stray.world.now "old"
    (Relational.heldRow (.ofNat 1)) := by
  unfold stray
  exact ⟨List.find?_cons_of_pos (beq_self_eq_true _), rfl, nofun⟩

theorem strayInMemory_orphaned : strayInMemory.world.store.Orphaned strayInMemory.world.now "old"
    (Relational.sessionIn (Relational.heldRow (.ofNat 1))) := by
  unfold strayInMemory
  exact ⟨List.find?_cons_of_pos (beq_self_eq_true _), rfl, nofun⟩

theorem stray_reachesStore :
    ReachesStore plainService.settings stray.world "old" "old" straySecret strayRest := by
  unfold stray
  exact ⟨rfl, rfl, by decide⟩

theorem strayInMemory_reachesStore :
    ReachesStore {} strayInMemory.world "old" "old" straySecret strayRest := by
  unfold strayInMemory
  exact ⟨rfl, rfl, by decide⟩

theorem straySecret_new : ∀ row ∈ stray.world.store.tables.sessions,
    row.digest ≠ RefreshSecret.digest straySecret := by
  decide +kernel

theorem stray_unhindered :
    Relational.Unhindered { stray.world with random := strayRest } straySecret strayId := by
  refine ⟨?_, ?_, straySecret_new, _, rfl⟩
  · unfold stray
    rfl
  · unfold stray
    exact ⟨rfl, rfl⟩

theorem stray_orphanFault : Relational.orphanFault stray.world.store.tables ⟨strayId⟩
    = Relational.sessionFault (.server (.dangling "sessions_user_id_fkey")) := by
  decide +kernel

/-- **A session whose owner is missing is not rejected**: the rotation ends with a fault of the database,
and the refresh with an internal error. -/
theorem orphan_not_rejected :
    ReachesStore plainService.settings stray.world "old" "old" straySecret strayRest
      ∧ Relational.Unhindered { stray.world with random := strayRest } straySecret strayId
      ∧ Relational.Orphaned stray.world.store.tables stray.world.now "old"
        (Relational.heldRow (.ofNat 1))
      ∧ (Relational.rotateSession Relational.defaultLockTimeout "old" straySecret (.ofSeconds 120)
          ⟨none, none⟩ { stray.world with random := strayRest }).1
        = .error (.refused (Relational.sessionFault (.server (.dangling "sessions_user_id_fkey"))))
      ∧ (plainService.service.refresh "old" ⟨none, none⟩ stray).1 = .error (.refused .internal) := by
  refine ⟨stray_reachesStore, stray_unhindered, stray_orphaned,
    (Relational.rotateSession_orphaned stray_unhindered stray_orphaned).failed.1.trans ?_,
    (TableService.refresh_orphaned stray_reachesStore stray_unhindered
      stray_orphaned).failed.1.trans ?_⟩
  · show Except.error (Failure.refused (Relational.orphanFault stray.world.store.tables ⟨strayId⟩))
      = _
    rw [stray_orphanFault]
  · rw [stray_orphanFault]
    rfl

theorem orphans_answered_stray :
    (Relational.validateSession "old" { stray.world with random := strayRest }).1
        = .error (.refused .unknown)
      ∧ (plainService.service.refresh "old" ⟨none, none⟩ stray).2.tables
        = stray.world.store.tables
      ∧ (MemoryStore.store.rotateSession "old" straySecret (.ofSeconds 120) ⟨none, none⟩
          strayInMemory.world).1 = .error (.refused .unknown)
      ∧ (Service.refresh ⟨MemoryStore.store, ⟨[], "issuer"⟩, {}⟩ "old" ⟨none, none⟩
          strayInMemory).1 = .error (.refused .invalidRefreshToken) := by
  obtain ⟨hrotate, hrefresh, hmemory, hrefreshed⟩ :=
    orphans_answered "old" straySecret ⟨none, none⟩
  have hcalm : strayInMemory.world.store.misbehaviours.rotateSession = none := by
    unfold strayInMemory
    rfl
  exact ⟨(hrotate _ _ _ stray_unhindered stray_orphaned).2,
    (hrefresh plainService stray "old" strayRest _ _ stray_reachesStore stray_unhindered
      stray_orphaned).2,
    (hmemory _ _ (.ofSeconds 120) hcalm strayInMemory_orphaned).1,
    (hrefreshed ⟨[], "issuer"⟩ {} strayInMemory "old" strayRest _ strayInMemory_reachesStore hcalm
      strayInMemory_orphaned).1⟩

end SessionAuth
