import SessionAuth.Proofs.Database.InStep
import SessionAuth.Proofs.Service.Traceless

/-!
Stores that take down what is known about a client, and do not go by it.

Opening and replacing a session add one row, and what is known about the client goes into two columns of
this row and nowhere else. `Store.IgnoresClients` says so of two calls from one state: they end alike, and
the stores differ in the new row at most. Up to the insertion the two calls are the same, and what the
database does afterwards looks at users and at what it was before.
-/

set_option autoImplicit false

namespace SessionAuth

open Database (SessionRow NewSession Tables Statement RunsAlike)

variable {c c' : Client} {before : List Nat}

/-! ## The property -/

/-- **A store that does not go by clients.** Two calls that differ in the client end alike, and the stores
are as far apart as two clients allow, given how many sessions there may have been. Looking for a user does
not change how many there are. -/
structure Store.IgnoresClients {σ : Type} (store : Store σ) (count : σ → List Nat)
    (apart : Client → Client → List Nat → σ → σ → Prop) : Prop where
  refl : ∀ {c c' : Client} {m : σ}, apart c c' (count m) m m
  findUserByEmail : ∀ {w : World σ} (email : Email),
    Spares (count ·.store) (store.findUserByEmail email) w
  createSession : ∀ (w : World σ) (u : UserId) (secret : String) (expiresAt : Instant)
    (rotatedFrom : Option SessionId) (c c' : Client),
    Agree (World.InStep (apart c c' (count w.store))) Eq Eq
      (store.createSession u secret expiresAt c rotatedFrom)
      (store.createSession u secret expiresAt c' rotatedFrom) w w
  rotateSession : ∀ (w : World σ) (oldSecret newSecret : String) (expiresAt : Instant)
    (c c' : Client),
    Agree (World.InStep (apart c c' (count w.store))) Eq Eq
      (store.rotateSession oldSecret newSecret expiresAt c)
      (store.rotateSession oldSecret newSecret expiresAt c') w w

/-! ## The tables -/

namespace Database

/-- **Rows for two clients**: they are the same but for what is known about the client. -/
def SessionRow.ForClients (c c' : Client) (row row' : SessionRow) : Prop :=
  row.userAgent = c.userAgent ∧ row.ip = c.ip.map IpAddress.toText
    ∧ row' = { row with userAgent := c'.userAgent, ip := c'.ip.map IpAddress.toText }

/-- **Tables for two clients**: they are the same but for the client of a new session. -/
structure TablesForClients (c c' : Client) (before : List Nat) (t t' : Tables) : Prop where
  users : t.users = t'.users
  sessions : OneNew (SessionRow.ForClients c c') before t.sessions t'.sessions
  checksReferences : t.checksReferences = t'.checksReferences

/-- The same tables, without a new session. -/
def SameTables (before : List Nat) (t t' : Tables) : Prop := t = t' ∧ t.sessions.length ∈ before

theorem SameTables.forClients (t t' : Tables) (h : SameTables before t t') :
    TablesForClients c c' before t t' := h.1 ▸ ⟨rfl, .same h.2, rfl⟩

/-- How many sessions there may be. -/
def counts (db : Database) : List Nat := db.versions.map (·.sessions.length)

theorem inStep_counts (db : Database) : InStep (SameTables db.counts) db db :=
  .refl fun _ ht => ⟨rfl, List.mem_map_of_mem ht⟩

theorem counts_eq {db db' : Database} (h : db'.contents = db.contents) : db'.counts = db.counts := by
  obtain ⟨htables, hstart⟩ := Prod.mk.inj h
  unfold counts versions
  rw [htables, hstart]

/-- Whether a session can be added does not depend on what is known about its client. -/
theorem insertSession_alike {t : Tables} {s : NewSession} {userAgent ip : Option String}
    {T : Tables → Tables → Prop} {now : Instant}
    (hT : T { t with sessions := t.sessions ++ [s.row now] }
      { t with sessions := t.sessions ++ [{ s.row now with userAgent, ip }] }) :
    RunsAlike T (t.run now (.insertSession s))
      (t.run now (.insertSession { s with userAgent, ip })) := by
  have hback : t.lacksPredecessor { s with userAgent, ip } = t.lacksPredecessor s := rfl
  show RunsAlike T ((t.insertSession s now).map _)
    ((t.insertSession { s with userAgent, ip } now).map _)
  unfold Tables.insertSession
  rw [hback]
  split
  · exact .error
  split
  · exact .error
  split
  · exact .error
  split
  · exact .error
  · exact .ok hT

theorem insertSession_forClients {id : SessionId} {u : UserId} {digest : Bytes}
    {expiresAt : Instant} {rotatedFrom : Option SessionId} (t t' : Tables) (now : Instant)
    (h : SameTables before t t') :
    RunsAlike (TablesForClients c c' before)
      (t.run now (.insertSession (.of id u digest expiresAt c rotatedFrom)))
      (t'.run now (.insertSession (.of id u digest expiresAt c' rotatedFrom))) := by
  obtain ⟨rfl, hlength⟩ := h
  exact insertSession_alike ⟨rfl, .new hlength ⟨rfl, rfl, rfl⟩, rfl⟩

/-- A statement that adds no session and drops none does the same on tables that are the same. -/
theorem runsAlike_sameTables {s : Statement}
    (hs : ∀ (t t' : Tables) (now : Instant) (o : Outcome), t.run now s = .ok (o, t') →
      t'.sessions.length = t.sessions.length) (t t' : Tables) (now : Instant)
    (h : SameTables before t t') :
    RunsAlike (SameTables before) (t.run now s) (t'.run now s) := by
  obtain ⟨rfl, hlength⟩ := h
  cases hrun : t.run now s with
  | error fault => exact .error
  | ok r =>
    obtain ⟨o, t'⟩ := r
    exact .ok ⟨rfl, hs t t' now o hrun ▸ hlength⟩

end Database

namespace Relational

variable {w w' : World Database} {s : Statement}

/-- A statement of a rotation ahead of the new session. -/
theorem execute_sameTables (hboundary : s.isBoundary = false)
    (hs : ∀ (t t' : Tables) (now : Instant) (o : Database.Outcome), t.run now s = .ok (o, t') →
      t'.sessions.length = t.sessions.length)
    (h : World.InStep (Database.InStep (Database.SameTables before)) w w') :
    Agree (World.InStep (Database.InStep (Database.SameTables before))) Eq Eq (execute s)
      (execute s) w w' :=
  Database.mapFault_agree (Database.execute_inStep hboundary hboundary rfl (fun _ _ h => h)
    (Database.runsAlike_sameTables hs) h)

/-- Two sessions are added or refused alike, whatever is known about the clients. -/
theorem createSession_inStep {u : UserId} {secret : String} {expiresAt : Instant}
    {rotatedFrom : Option SessionId}
    (h : World.InStep (Database.InStep (Database.SameTables before)) w w') :
    Agree (World.InStep (Database.InStep (Database.TablesForClients c c' before))) Eq Eq
      (createSession u secret expiresAt c rotatedFrom)
      (createSession u secret expiresAt c' rotatedFrom) w w' := by
  have hid : Agree (World.InStep (Database.InStep (Database.SameTables before))) Eq Eq
      (SessionId.mk <$> Act.draw Uuid.random? : Act Database SessionFault SessionId)
      (SessionId.mk <$> Act.draw Uuid.random?) w w' :=
    (Act.draw_inStep _ h).map fun _ _ => congrArg SessionId.mk
  refine hid.bind_mono (fun _ _ h => h.mono fun _ _ h => h.mono Database.SameTables.forClients) ?_
  rintro id _ v v' rfl hv
  have hinsert : Agree (World.InStep (Database.InStep (Database.TablesForClients c c' before))) Eq Eq
      (Database.execute
        (.insertSession (.of id u (RefreshSecret.digest secret) expiresAt c rotatedFrom)))
      (Database.execute
        (.insertSession (.of id u (RefreshSecret.digest secret) expiresAt c' rotatedFrom))) v v' :=
    Database.execute_inStep rfl rfl rfl Database.SameTables.forClients
      Database.insertSession_forClients hv
  refine (Database.mapFault_agree hinsert).bind ?_
  rintro o _ u u' rfl hu
  exact .pure rfl hu

/-- Behind a new session, a user is looked for in tables that have the same users. -/
theorem findUserById_inStep {id : UserId}
    (h : World.InStep (Database.InStep (Database.TablesForClients c c' before)) w w') :
    Agree (World.InStep (Database.InStep (Database.TablesForClients c c' before))) Eq Eq
      (findUserById id) (findUserById id) w w' := by
  have hrun : ∀ (t t' : Tables) (now : Instant), Database.TablesForClients c c' before t t' →
      RunsAlike (Database.TablesForClients c c' before) (t.run now (.userById id))
        (t'.run now (.userById id)) := by
    intro t t' now ht
    show RunsAlike _ (.ok (Tables.select t.users _ _, t)) (.ok (Tables.select t'.users _ _, t'))
    rw [← ht.users]
    exact .ok ht
  refine (Database.mapFault_agree (Database.fetch_inStep rfl hrun h)).bind ?_
  rintro (_ | row) _ v v' rfl hv
  · exact .pure rfl hv
  · dsimp only
    cases readUser row with
    | ok user => exact .pure rfl hv
    | error fault => exact .throw rfl hv

/-- A locked session is replaced for either client, or for neither. -/
theorem replaceSession_inStep {old : LockedSession} {newSecret : String} {expiresAt : Instant}
    (h : World.InStep (Database.InStep (Database.SameTables before)) w w') :
    Agree (World.InStep (Database.InStep (Database.TablesForClients c c' before))) Eq Eq
      (replaceSession old newSecret expiresAt c) (replaceSession old newSecret expiresAt c')
      w w' := by
  have hweak : ∀ v v', World.InStep (Database.InStep (Database.SameTables before)) v v' →
      World.InStep (Database.InStep (Database.TablesForClients c c' before)) v v' :=
    fun _ _ h => h.mono fun _ _ h => h.mono Database.SameTables.forClients
  refine .get_bind ?_
  rw [← h.now]
  cases SessionState.at old.expiresAt old.revokedAt w.now with
  | revoked => exact .pure rfl (hweak _ _ h)
  | expired => exact .pure rfl (hweak _ _ h)
  | active =>
    refine (execute_sameTables rfl ?_ h).bind_mono hweak ?_
    · intro t t' now o hrun
      obtain rfl := congrArg Prod.snd (Except.ok.inj hrun)
      exact List.length_map _
    rintro revoked _ v v' rfl hv
    refine .ite (fun _ => .pure rfl (hweak _ _ hv)) fun _ => ?_
    refine (createSession_inStep hv).bind ?_
    rintro id _ u u' rfl hu
    refine (Database.attempt_agree (findUserById_inStep hu)).bind ?_
    rintro (fault | _ | user) _ t t' rfl ht
    · exact .pure rfl ht
    · exact .pure rfl ht
    · exact .pure rfl ht

theorem rotateSession_inStep {limit : Duration} {oldSecret newSecret : String}
    {expiresAt : Instant}
    (h : World.InStep (Database.InStep (Database.SameTables before)) w w') :
    Agree (World.InStep (Database.InStep (Database.TablesForClients c c' before))) Eq Eq
      (rotateSession limit oldSecret newSecret expiresAt c)
      (rotateSession limit oldSecret newSecret expiresAt c') w w' := by
  have hweak : ∀ v v', World.InStep (Database.InStep (Database.SameTables before)) v v' →
      World.InStep (Database.InStep (Database.TablesForClients c c' before)) v v' :=
    fun _ _ h => h.mono fun _ _ h => h.mono Database.SameTables.forClients
  refine Database.inTransaction_inStep (fun _ _ h => h.1) Database.SameTables.forClients
    (fun v v' hv => ?_) h
  refine (execute_sameTables rfl ?_ hv).bind_mono hweak ?_
  · intro t t' now o hrun
    obtain rfl := congrArg Prod.snd (Except.ok.inj hrun)
    rfl
  rintro o _ u u' rfl hu
  refine (Database.mapFault_agree (Database.fetch_inStep rfl
    (Database.runsAlike_sameTables ?_) hu)).bind_mono hweak ?_
  · intro t t' now o hrun
    obtain rfl := congrArg Prod.snd (Except.ok.inj hrun)
    rfl
  rintro (_ | row) _ t t' rfl ht
  · exact .pure rfl (hweak _ _ ht)
  dsimp only
  cases (readLockedSession row).mapError sessionFault with
  | error fault => exact .throw rfl (hweak _ _ ht)
  | ok old => exact replaceSession_inStep ht

/-- **The tables do not go by clients**, whatever the database does: statements may fail, be left
unanswered, be skipped or come back altered. -/
theorem ignoresClients (limit : Duration) :
    (store limit).IgnoresClients Database.counts
      (fun c c' before => Database.InStep (Database.TablesForClients c c' before)) where
  refl {_ _} db := db.inStep_counts.mono Database.SameTables.forClients
  findUserByEmail email :=
    ((traceless limit).findUserByEmail email).mono (fun _ _ h => Database.counts_eq h)
      fun _ _ h => Database.counts_eq h
  createSession w _ _ _ _ _ _ := createSession_inStep (.refl w.store.inStep_counts)
  rotateSession w _ _ _ _ _ := rotateSession_inStep (.refl w.store.inStep_counts)

end Relational

/-! ## The store in memory -/

/-- Sessions for two clients: they are the same but for what is known about the client. -/
def Session.ForClients (c c' : Client) (s s' : Session) : Prop :=
  s.client = c ∧ s' = { s with client := c' }

/-- A call without what is known about the client. -/
def StoreCall.anonymous : StoreCall → StoreCall
  | .createSession u secret expiresAt _ rotatedFrom =>
    .createSession u secret expiresAt ⟨none, none⟩ rotatedFrom
  | .rotateSession oldSecret newSecret expiresAt _ =>
    .rotateSession oldSecret newSecret expiresAt ⟨none, none⟩
  | call => call

namespace MemoryStore

/-- How many sessions there are. -/
def counts (m : MemoryStore) : List Nat := [m.sessions.length]

/-- **Stores for two clients**: they are the same but for the client of a new session and of the calls. -/
structure ForClients (c c' : Client) (before : List Nat) (m m' : MemoryStore) : Prop where
  users : m.users = m'.users
  sessions : OneNew (Session.ForClients c c') before m.sessions m'.sessions
  calls : m.calls.map StoreCall.anonymous = m'.calls.map StoreCall.anonymous
  misbehaviours : m.misbehaviours = m'.misbehaviours

/-- Two calls that differ in the client have been noted. -/
theorem noted_forClients {w : World MemoryStore} (call call' : StoreCall)
    (h : call.anonymous = call'.anonymous) :
    World.InStep (ForClients c c' w.store.counts) (noted call w) (noted call' w) := by
  refine ⟨rfl, rfl, rfl, rfl, .same (List.mem_singleton_self _), ?_, rfl⟩
  show (w.store.calls ++ [call]).map _ = (w.store.calls ++ [call']).map _
  rw [List.map_append, List.map_append, List.map_singleton, List.map_singleton, h]

/-- A session is added to either store. -/
theorem addSession_forClients {m m' : MemoryStore} {l : List Session}
    (h : ForClients c c' before m m') (hl : m.sessions = l) (hl' : m'.sessions = l)
    (hlength : l.length ∈ before) (u : UserId) (secret : String) (now expiresAt : Instant)
    (rotatedFrom : Option SessionId) :
    ForClients c c' before (m.addSession u secret now expiresAt c rotatedFrom)
      (m'.addSession u secret now expiresAt c' rotatedFrom) := by
  refine ⟨h.users, ?_, h.calls, h.misbehaviours⟩
  unfold addSession nextSessionId
  dsimp only
  rw [hl, hl']
  exact .new hlength ⟨rfl, rfl⟩

/-- **The store in memory does not go by clients**, also where it is told to misbehave. -/
theorem ignoresClients : store.IgnoresClients counts ForClients where
  refl := ⟨rfl, .same (List.mem_singleton_self _), rfl, rfl⟩
  findUserByEmail email := answering_ensures (fun _ => rfl) (fun _ _ => rfl) fun _ => rfl
  createSession w u secret expiresAt rotatedFrom c c' := by
    have hnoted : World.InStep (ForClients c c' w.store.counts) _ _ :=
      noted_forClients (.createSession u secret expiresAt c rotatedFrom)
        (.createSession u secret expiresAt c' rotatedFrom) rfl
    refine answering_inStep hnoted (.get_bind (.get_bind (.modify_bind (.pure rfl ?_))))
    exact hnoted.withStore (addSession_forClients hnoted.store rfl rfl (List.mem_singleton_self _) u
      secret w.now expiresAt rotatedFrom)
  rotateSession w oldSecret newSecret expiresAt c c' := by
    have hnoted : World.InStep (ForClients c c' w.store.counts) _ _ :=
      noted_forClients (.rotateSession oldSecret newSecret expiresAt c)
        (.rotateSession oldSecret newSecret expiresAt c') rfl
    refine answering_inStep hnoted (.get_bind (.get_bind ?_))
    -- the decision is made by sessions, users and a clock that are the same on both sides
    have hsession : ∀ call, (noted call w).store.sessionOf? oldSecret = w.store.sessionOf? oldSecret :=
      fun _ => rfl
    have hnow : ∀ call, (noted call w).now = w.now := fun _ => rfl
    have husers : ∀ call, (noted call w).store.users = w.store.users := fun _ => rfl
    rw [hsession, hsession]
    cases w.store.sessionOf? oldSecret with
    | none => exact .throw rfl hnoted
    | some old =>
      dsimp only
      rw [hnow, hnow]
      cases old.state w.now with
      | revoked => exact .throw rfl hnoted
      | expired => exact .throw rfl hnoted
      | active =>
        dsimp only
        rw [husers, husers]
        cases w.store.users.find? (·.id == old.userId) with
        | none => exact .throw rfl hnoted
        | some user =>
          have hrevoked : ForClients c c' w.store.counts
              ((noted (.rotateSession oldSecret newSecret expiresAt c) w).store.revokeFirst
                (·.digest == old.digest) w.now)
              ((noted (.rotateSession oldSecret newSecret expiresAt c') w).store.revokeFirst
                (·.digest == old.digest) w.now) := by
            refine ⟨rfl, .same ?_, hnoted.store.calls, rfl⟩
            exact List.mem_singleton.mpr (length_updateFirst _ _ _)
          exact .modify_bind (.pure rfl (hnoted.withStore (addSession_forClients hrevoked rfl rfl
            (List.mem_singleton.mpr (length_updateFirst _ _ _)) user.id newSecret w.now expiresAt
            (some old.id))))

end MemoryStore

end SessionAuth
