import SessionAuth.Proofs.Agree
import SessionAuth.Proofs.Store.Accounts
import SessionAuth.Proofs.Store.Twins
import SessionAuth.Proofs.Time.Instant

/-!
The store in memory simulates the tables.

Started from twins, both stores answer every call alike, and are twins again behind it. They check and
write in different orders, so that the calls are compared by what decides for their answers and by what
they leave behind. In a run of calls this goes on and on.

Three things are asked for that the store in memory does not look at. An identifier that the tables draw
must be new to them, a predecessor must be there (it is named by its place, which means the same to both
stores), and there must be no U+0000 in metadata, which no database holds.
-/

set_option autoImplicit false

namespace SessionAuth

open Database (UserRow SessionRow NewSession Tables Within)

variable {σ : Type}

/-! ## Calls of a store of sessions -/

/-- What is asked of a store of sessions. A predecessor is named by its place. -/
inductive SessionRequest where
  | create (user : UserId) (secret : String) (expiresAt : Instant) (client : Client)
      (predecessor : Option Nat)
  | rotate (oldSecret newSecret : String) (expiresAt : Instant) (client : Client)
  | revoke (secret : String)
  | revokeAll (user : UserId)

/-- What a store of sessions answers. -/
inductive SessionAnswer where
  | opened (id : SessionId)
  | rotated (r : RotatedSession)
  | revoked
  | counted (n : Nat)

/-- The answer of a store whose sessions have these identifiers. -/
def Store.answer (store : Store σ) (ids : List SessionId) :
    SessionRequest → Act σ SessionFault SessionAnswer
  | .create user secret expiresAt client predecessor =>
    .opened <$> store.createSession user secret expiresAt client (predecessor.bind (ids[·]?))
  | .rotate oldSecret newSecret expiresAt client =>
    .rotated <$> store.rotateSession oldSecret newSecret expiresAt client
  | .revoke secret => (fun _ => .revoked) <$> store.revokeSession secret
  | .revokeAll user => .counted <$> store.revokeAllSessions user

/-- A request, the time at which it is made, and what is drawn for it. -/
structure SessionCall where
  request : SessionRequest
  now : Instant
  random : RandomSource

/-- Calls a store that does what it is asked to do. -/
def Store.call (store : Store σ) (settle : σ → σ) (ids : σ → List SessionId) (c : SessionCall)
    (m : σ) : Except (Failure SessionFault) SessionAnswer × σ :=
  let ending := store.answer (ids m) c.request ⟨c.now, c.random, [], settle m⟩
  (ending.1, ending.2.store)

/-- Calls a database that answers and disturbs no statement. -/
def Database.call (lockTimeout : Duration) : SessionCall → Database →
    Except (Failure SessionFault) SessionAnswer × Database :=
  (Relational.store lockTimeout).call (meet {}) (·.settled.sessionIds)

/-- Calls a store in memory that misbehaves at no call. -/
def MemoryStore.call : SessionCall → MemoryStore →
    Except (Failure SessionFault) SessionAnswer × MemoryStore :=
  store.call (meet {}) sessionIds

/-! ## Answers that correspond -/

/-- **Answers that correspond**: the sessions that are new are the last ones on either side, and
everything else is the same. -/
inductive SameAnswer (ids ids' : List SessionId) : SessionAnswer → SessionAnswer → Prop where
  | opened {p q : SessionId} (hp : ids.getLast? = some p) (hq : ids'.getLast? = some q) :
      SameAnswer ids ids' (.opened p) (.opened q)
  | rotated {p q : SessionId} {user : User} (hp : ids.getLast? = some p)
      (hq : ids'.getLast? = some q) :
      SameAnswer ids ids' (.rotated ⟨p, user⟩) (.rotated ⟨q, user⟩)
  | revoked : SameAnswer ids ids' .revoked .revoked
  | counted (n : Nat) : SameAnswer ids ids' (.counted n) (.counted n)

/-- Both calls are answered, or both are refused for the same reason. -/
inductive SameOutcome (ids ids' : List SessionId) : Except (Failure SessionFault) SessionAnswer →
    Except (Failure SessionFault) SessionAnswer → Prop where
  | answered {x y : SessionAnswer} (h : SameAnswer ids ids' x y) :
      SameOutcome ids ids' (.ok x) (.ok y)
  | refused (fault : SessionFault) :
      SameOutcome ids ids' (.error (.refused fault)) (.error (.refused fault))

/-- **Two calls that end alike**: with the same outcome, and with twins. -/
structure AnsweredAlike (x : Except (Failure SessionFault) SessionAnswer × Database)
    (y : Except (Failure SessionFault) SessionAnswer × MemoryStore) : Prop where
  outcome : SameOutcome x.2.settled.sessionIds y.2.sessionIds x.1 y.1
  twins : Twins x.2.settled y.2

/-! ## What is asked of the circumstances -/

/-- What is drawn next is an identifier that no session has. -/
def Database.Tables.DrawsNew (t : Tables) (random : RandomSource) : Prop :=
  ∃ id rest, Uuid.random? random = some (id, rest) ∧ ∀ row ∈ t.sessions, row.id ≠ ⟨id⟩

/-- No session has this secret. -/
def Database.Tables.New (t : Tables) (secret : String) : Prop :=
  ∀ row ∈ t.sessions, row.digest ≠ RefreshSecret.digest secret

/-- Metadata that a database can hold: there is no U+0000 in its text. -/
def Client.Storable (c : Client) : Prop := ∀ text ∈ c.userAgent, '\x00' ∉ text.toList

/-- What is asked of a request: times are whole, metadata can be held, users exist, secrets are new, and an
identifier is new where one is drawn. The tables here hold any text, but a database refuses U+0000. -/
def SessionRequest.Fits (t : Tables) (now : Instant) (random : RandomSource) :
    SessionRequest → Prop
  | .create user secret expiresAt client _ =>
    expiresAt.IsWhole ∧ client.Storable ∧ (∃ row ∈ t.users, row.id = user) ∧ t.New secret
      ∧ t.DrawsNew random
  | .rotate oldSecret newSecret expiresAt client =>
    expiresAt.IsWhole ∧ client.Storable ∧ t.New newSecret
      ∧ ∀ old, t.sessions.find? (·.digest == RefreshSecret.digest oldSecret) = some old →
        SessionState.at old.expiresAt old.revokedAt now = .active → t.DrawsNew random
  | .revoke _ | .revokeAll _ => True

/-- What is asked of a call. -/
structure SessionCall.Fits (t : Tables) (c : SessionCall) : Prop where
  clock : c.now.IsWhole
  request : c.request.Fits t c.now c.random

/-! ## Calls of the tables -/

section Tables

variable {db : Database} {limit : Duration} {now : Instant} {random : RandomSource}

/-- What surrounds a call of the tables. -/
def Database.surroundings (db : Database) (now : Instant) (random : RandomSource) :
    World Database := ⟨now, random, [], meet {} db⟩

theorem Database.surroundings_ready : (db.surroundings now random).store.Ready := meet_ready {} db

theorem Database.surroundings_fair : (db.surroundings now random).store.Fair := meet_fair rfl rfl

/-- A session that fits is inserted under the identifier that is drawn. -/
theorem Relational.createSession_inserts {user : UserId} {secret : String} {expiresAt : Instant}
    {client : Client} {p : Option SessionId} {id : Uuid} {rest : RandomSource}
    (hdraw : Uuid.random? random = some (id, rest))
    (hid : ∀ row ∈ db.settled.sessions, row.id ≠ ⟨id⟩) (hnew : db.settled.New secret)
    (howner : ∃ row ∈ db.settled.users, row.id = user)
    (hback : ∀ p', p = some p' → ∃ row ∈ db.settled.sessions, row.id = p') :
    Ensures (createSession user secret expiresAt client p) (db.surroundings now random)
      (fun id' w' => id' = ⟨id⟩ ∧ db.settled.insertSession
        (.of ⟨id⟩ user (RefreshSecret.digest secret) expiresAt client p) now.floorMicros
          = .ok w'.store.settled)
      (fun _ _ => False) := by
  refine (createSession_fair (w := db.surroundings now random) Database.surroundings_fair
    hdraw).mono ?_ ?_
  · rintro id' w' ⟨rfl, hin, hins⟩
    refine ⟨rfl, ?_⟩
    rw [hin.settled Database.surroundings_ready]
    exact hins
  · rintro e w' ⟨fault, hrefused, -⟩
    have hins : db.settled.insertSession
        (.of ⟨id⟩ user (RefreshSecret.digest secret) expiresAt client p) now.floorMicros = .ok _ :=
      Database.insertSession_eq_ok hid hnew howner hback
    cases hins.symm.trans hrefused

/-- A rotation is answered as the tables say, and done or not done at all. -/
theorem Relational.rotateSession_answered {oldSecret newSecret : String} {expiresAt : Instant}
    {client : Client} {id : Uuid} {rest : RandomSource} (hc : db.settled.Constrained)
    (hnew : db.settled.New newSecret)
    (hdraw : ∀ old, db.settled.sessions.find? (·.digest == RefreshSecret.digest oldSecret) = some old →
      SessionState.at old.expiresAt old.revokedAt now = .active →
      Uuid.random? random = some (id, rest)) :
    Ensures (rotateSession limit oldSecret newSecret expiresAt client) (db.surroundings now random)
      (fun r w' => rotationAnswer db.settled now oldSecret ⟨id⟩ = .ok r
        ∧ ∃ old, Rotates db.settled now oldSecret newSecret expiresAt client old r w'.store.settled)
      (fun e w' => ∃ fault, rotationAnswer db.settled now oldSecret ⟨id⟩ = .error fault
        ∧ e = .refused fault ∧ w'.store.settled = db.settled) := by
  have howner : ∀ old, db.settled.sessions.find? (·.digest == RefreshSecret.digest oldSecret)
      = some old → ∃ u ∈ db.settled.users, u.id = old.userId :=
    fun old hold => hc.owners old (List.mem_of_find?_eq_some hold)
  refine ((rotateSession_ensures (w := db.surroundings now random) Database.surroundings_ready.idle
    Database.surroundings_ready.faithful).and (rotateSession_owned Database.surroundings_fair howner
      hnew hdraw)).mono ?_ ?_
  · rintro r w' ⟨⟨⟨⟨old, hrotates⟩, -⟩, hcommitted⟩, hanswer⟩
    rw [hcommitted.settled]
    exact ⟨hanswer, old, hrotates⟩
  · rintro e w' ⟨hundone, fault, hanswer, rfl⟩
    exact ⟨fault, hanswer, rfl, hundone.settled⟩

/-- The open session of a secret is revoked, if there is one. -/
theorem Relational.revokeSession_revokes {secret : String} :
    Ensures (revokeSession secret) (db.surroundings now random)
      (fun _ w' => (db.settled.sessions.any fun row =>
            row.digest == RefreshSecret.digest secret && row.revokedAt.isNone) = true
        ∧ w'.store.settled
          = (db.settled.revoke (·.digest == RefreshSecret.digest secret) now.floorMicros).2)
      (fun e w' => (db.settled.sessions.any fun row =>
            row.digest == RefreshSecret.digest secret && row.revokedAt.isNone) = false
        ∧ e = .refused .unknown ∧ w'.store.settled = db.settled) := by
  have hopen : IsOpen db.settled secret ↔ (db.settled.sessions.any fun row =>
      row.digest == RefreshSecret.digest secret && row.revokedAt.isNone) = true := by
    simp only [IsOpen, List.any_eq_true, Bool.and_eq_true, beq_iff_eq, Option.isNone_iff_eq_none]
  refine ((revokeSession_ensures Database.surroundings_ready.faithful).and
    (revokeSession_fair Database.surroundings_fair)).mono ?_ ?_
  · rintro _ w' ⟨⟨h, hin, ht⟩, -⟩
    refine ⟨hopen.mp h, ?_⟩
    rw [hin.settled Database.surroundings_ready]
    exact ht
  · rintro e w' ⟨⟨hin, ht⟩, hclosed, rfl⟩
    refine ⟨Bool.eq_false_iff.mpr fun h => hclosed (hopen.mpr h), rfl, ?_⟩
    rw [hin.settled Database.surroundings_ready]
    exact ht

/-- All open sessions of a user are revoked and counted. -/
theorem Relational.revokeAllSessions_revokes {user : UserId} :
    Ensures (revokeAllSessions user) (db.surroundings now random)
      (fun n w' => n = db.settled.sessions.countP
            (fun row => row.userId == user && row.revokedAt.isNone)
        ∧ w'.store.settled = (db.settled.revoke (·.userId == user) now.floorMicros).2)
      (fun _ _ => False) := by
  refine ((revokeAllSessions_ensures Database.surroundings_ready.faithful).and
    (revokeAllSessions_fair Database.surroundings_fair)).mono ?_ fun _ _ h => h.2
  rintro n w' ⟨⟨hin, h⟩, -⟩
  rw [hin.settled Database.surroundings_ready]
  exact ⟨(congrArg (·.1.changed) h).symm, (congrArg Prod.snd h).symm⟩

end Tables

/-! ## Calls of the store in memory -/

namespace MemoryStore

variable {m : MemoryStore} {now : Instant} {random : RandomSource}

/-- What surrounds a call of the store in memory. -/
def surroundings (m : MemoryStore) (now : Instant) (random : RandomSource) : World MemoryStore :=
  ⟨now, random, [], meet {} m⟩

/-- A session is added behind the others. -/
theorem createSession_appends {user : UserId} {secret : String} {expiresAt : Instant}
    {client : Client} {p : Option SessionId} :
    Ensures (store.createSession user secret expiresAt client p) (m.surroundings now random)
      (fun id w' => w'.store.users = m.users
        ∧ w'.store.sessions = m.sessions ++ [.fresh id user secret now expiresAt client p])
      (fun _ _ => False) :=
  answering_calm rfl (Act.store_bind (Act.now_bind (Act.modifyStore_bind ⟨rfl, rfl⟩)))

/-- Where at most one element passes a test, changing the first one changes all of them. -/
theorem updateFirst_eq_map {β : Type} {test : β → Bool} {f : β → β} {l : List β}
    (h : l.Pairwise fun a b => ¬(test a = true ∧ test b = true)) :
    updateFirst test f l = l.map fun a => if test a then f a else a := by
  induction h with
  | nil => rfl
  | @cons a rest hfirst _ ih =>
    rw [List.map_cons, updateFirst]
    by_cases ha : test a = true
    · rw [if_pos ha, if_pos ha]
      have hrest : ∀ b ∈ rest, (if test b = true then f b else b) = id b :=
        fun b hb => if_neg fun htest => hfirst b hb ⟨ha, htest⟩
      rw [List.map_congr_left hrest, List.map_id]
    · rw [if_neg ha, if_neg ha, ih]

/-- Where digests are unique, at most one session passes a test that asks for one. -/
theorem pairwise_of_digests {test : Session → Bool} {digest : Bytes}
    (h : (m.sessions.map (·.digest)).Nodup) (htest : ∀ s, test s = true → s.digest = digest) :
    m.sessions.Pairwise fun a b => ¬(test a = true ∧ test b = true) := by
  refine (List.pairwise_map.mp h).imp ?_
  rintro a b hne ⟨ha, hb⟩
  exact hne ((htest a ha).trans (htest b hb).symm)

/-- The open session of a secret is revoked, if there is one. -/
theorem revokeSession_revokes {secret : String} (h : (m.sessions.map (·.digest)).Nodup) :
    Ensures (store.revokeSession secret) (m.surroundings now random)
      (fun _ w' => (m.sessions.any fun s =>
            s.digest == RefreshSecret.digest secret && s.revokedAt.isNone) = true
        ∧ w'.store.users = m.users ∧ w'.store.sessions
          = m.sessions.map (Session.revokedBy (·.digest == RefreshSecret.digest secret) now))
      (fun e w' => (m.sessions.any fun s =>
            s.digest == RefreshSecret.digest secret && s.revokedAt.isNone) = false
        ∧ e = .refused .unknown ∧ w'.store.users = m.users ∧ w'.store.sessions = m.sessions) := by
  have htest : ∀ s : Session,
      (s.digest == RefreshSecret.digest secret && s.revokedAt.isNone) = true →
      s.digest = RefreshSecret.digest secret :=
    fun s hs => beq_iff_eq.mp (Bool.and_eq_true_iff.mp hs).1
  refine answering_calm rfl (Act.store_bind (Act.now_bind ?_))
  dsimp only
  split
  · exact ⟨‹_›, rfl, updateFirst_eq_map (pairwise_of_digests h htest)⟩
  · exact ⟨Bool.eq_false_iff.mpr ‹_›, rfl, rfl, rfl⟩

/-- All open sessions of a user are revoked and counted. -/
theorem revokeAllSessions_revokes {user : UserId} :
    Ensures (store.revokeAllSessions user) (m.surroundings now random)
      (fun n w' => n = m.sessions.countP (fun s => s.userId == user && s.revokedAt.isNone)
        ∧ w'.store.users = m.users
        ∧ w'.store.sessions = m.sessions.map (Session.revokedBy (·.userId == user) now))
      (fun _ _ => False) := by
  refine answering_calm rfl (Act.store_bind (Act.now_bind ?_))
  dsimp only
  exact Act.modifyStore_bind ⟨rfl, rfl, rfl⟩

/-- A session that is rotated is open. -/
theorem open_of_rotationAnswer {oldSecret : String} {old : Session} {user : User}
    (h : m.rotationAnswer now oldSecret = .ok (old, user)) :
    m.sessionOf? oldSecret = some old ∧ old.state now = .active
      ∧ m.users.find? (·.id == old.userId) = some user := by
  unfold rotationAnswer at h
  split at h
  · cases h
  split at h
  · cases h
  · cases h
  split at h
  · cases h
  · obtain ⟨rfl, rfl⟩ := Prod.mk.inj (Except.ok.inj h)
    exact ⟨‹_›, ‹_›, ‹_›⟩

end MemoryStore

/-! ## Calls of both stores -/

/-- The session that has been inserted is the last one. -/
theorem Database.Tables.getLast?_sessionIds {t t' : Tables} {s : NewSession} {moment : Instant}
    (h : t.insertSession s moment = .ok t') : t'.sessionIds.getLast? = some s.id := by
  rw [(insertSession_ok h).1, sessionIds, List.map_append]
  exact List.getLast?_concat

/-- The session that has been added is the last one. -/
theorem MemoryStore.getLast?_sessionIds {m : MemoryStore} {sessions : List Session} {s : Session}
    (h : m.sessions = sessions ++ [s]) : m.sessionIds.getLast? = some s.id := by
  rw [sessionIds, h, List.map_append]
  exact List.getLast?_concat

namespace Twins

variable {db : Database} {t : Tables} {m : MemoryStore} {limit : Duration} {now : Instant}
  {random : RandomSource}

/-- A place means the same to both. -/
theorem samePlace (h : Twins t m) (place : Option Nat) :
    SamePlace t.sessionIds m.sessionIds (place.bind (t.sessionIds[·]?))
      (place.bind (m.sessionIds[·]?)) := by
  have hlength : t.sessionIds.length = m.sessionIds.length := by
    unfold Tables.sessionIds MemoryStore.sessionIds
    rw [List.length_map, List.length_map, h.sessions.length_eq]
  cases place with
  | none => exact .nowhere
  | some k =>
    by_cases hk : k < t.sessionIds.length
    · have hk' : k < m.sessionIds.length := hlength ▸ hk
      show SamePlace _ _ t.sessionIds[k]? m.sessionIds[k]?
      rw [List.getElem?_eq_getElem hk, List.getElem?_eq_getElem hk']
      exact .place (List.getElem?_eq_getElem hk) (List.getElem?_eq_getElem hk')
    · have hk' : ¬k < m.sessionIds.length := hlength ▸ hk
      show SamePlace _ _ t.sessionIds[k]? m.sessionIds[k]?
      rw [List.getElem?_eq_none (Nat.not_lt.mp hk), List.getElem?_eq_none (Nat.not_lt.mp hk')]
      exact .nowhere

/-- A session that fits is added on both sides. -/
theorem create (h : Twins db.settled m) {user : UserId} {secret : String} {expiresAt : Instant}
    {client : Client} {predecessor : Option Nat}
    (hfits : (SessionRequest.create user secret expiresAt client predecessor).Fits db.settled now
      random) :
    AnsweredAlike (db.call limit ⟨.create user secret expiresAt client predecessor, now, random⟩)
      (m.call ⟨.create user secret expiresAt client predecessor, now, random⟩) := by
  obtain ⟨hwhole, -, howner, hnew, id, rest, hdraw, hid⟩ := hfits
  have hplace := h.samePlace predecessor
  refine Ensures.both_ok (P := fun x y => AnsweredAlike (x.1, x.2.store) (y.1, y.2.store))
    (Relational.createSession_inserts hdraw hid hnew howner fun p' hp => ?_).mapped
    MemoryStore.createSession_appends.mapped ?_
  · exact hplace.exists_row hp
  rintro _ w _ w' ⟨id₁, rfl, rfl, hins⟩ ⟨id₂, rfl, husers, hsessions⟩
  refine ⟨.answered (.opened ?_ ?_), h.insert hplace howner hwhole.towardStorageEpoch hins husers
    hsessions⟩
  · exact Tables.getLast?_sessionIds hins
  · exact MemoryStore.getLast?_sessionIds hsessions

/-- The same session is rotated on both sides, for the same user, or none is. -/
theorem rotationAnswer (h : Twins t m) {oldSecret : String} {id : SessionId}
    (hid : ∀ old, t.sessions.find? (·.digest == RefreshSecret.digest oldSecret) = some old →
      SessionState.at old.expiresAt old.revokedAt now = .active → ∀ row ∈ t.sessions, row.id ≠ id) :
    Relational.rotationAnswer t now oldSecret id
      = (m.rotationAnswer now oldSecret).map fun p => ⟨id, p.2⟩ := by
  unfold Relational.rotationAnswer MemoryStore.rotationAnswer
  rcases h.session oldSecret with ⟨hrow, hs⟩ | ⟨row, s, hrow, hs, hholds, -⟩
  · rw [hrow, hs]
    rfl
  have hstate : SessionState.at row.expiresAt row.revokedAt now = s.state now := by
    rw [hholds.expiresAt, hholds.revokedAt]
    rfl
  rw [hrow, hs]
  unfold Relational.replacementAnswer
  dsimp only
  rw [hstate]
  cases hactive : s.state now with
  | revoked => rfl
  | expired => rfl
  | active =>
    have hfree : t.sessions.any (·.id == id) = false := by
      simpa using hid row hrow (hstate.trans hactive)
    dsimp only
    rw [hfree, if_neg Bool.false_ne_true, Relational.ownerAnswer, hholds.userId]
    rcases h.user s.userId with ⟨hnobody, hnobody'⟩ | ⟨urow, user, hurow, huser, hu⟩
    · rw [hnobody, hnobody']
      rfl
    · rw [hurow, huser]
      dsimp only
      rw [hu.loads]
      rfl

/-- **What a rotation does to the tables and to the store in memory is the same**: it revokes the same
session, and adds one that points back to it. -/
theorem rotated (h : Twins t m) {t' : Tables} {m' : MemoryStore} {oldSecret newSecret : String}
    {expiresAt : Instant} {client : Client} {old : SessionRow} {r : RotatedSession} {s : Session}
    {user : User} {id : SessionId} (hclock : now.IsWhole) (hwhole : expiresAt.IsWhole)
    (hrotates : Relational.Rotates t now oldSecret newSecret expiresAt client old r t')
    (hanswer : m.rotationAnswer now oldSecret = .ok (s, user)) (husers : m'.users = m.users)
    (hsessions : m'.sessions = (m.revokeFirst (·.digest == s.digest) now).sessions
      ++ [.fresh id user.id newSecret now expiresAt client (some s.id)]) :
    Twins t' m' := by
  obtain ⟨hs, hactive, huser⟩ := MemoryStore.open_of_rotationAnswer hanswer
  -- the session that is found in memory is the one in the row
  obtain ⟨row, s', hrow, hs', hholds, hplace⟩ := (h.session oldSecret).resolve_left fun hnone =>
    nomatch hs.symm.trans hnone.2
  obtain rfl := Option.some.inj (hs'.symm.trans hs)
  obtain rfl := Option.some.inj (hrow.symm.trans hrotates.found)
  have hopen : s'.revokedAt = none := Relational.revokedAt_of_active hactive
  have howner : user.id = row.userId := by
    rw [Database.eq_of_find? (f := User.id) huser, hholds.userId]
  have htest : ∀ row' ∈ t.sessions, ∀ s, row'.Holds t.sessionIds m.sessionIds s →
      (row'.id == row.id) = (s.digest == s'.digest) := by
    intro row' hrow' s hholds'
    rw [Bool.eq_iff_iff, beq_iff_eq, beq_iff_eq, ← hholds'.digest, ← hholds.digest]
    constructor
    · intro hid
      rw [h.constrained.eq_of_id hrow' hrotates.mem hid]
    · intro hdigest
      rw [List.inj_on_of_nodup_map h.constrained.digests hrow' hrotates.mem hdigest]
  have hfirst : (m.revokeFirst (·.digest == s'.digest) now).sessions
      = m.sessions.map (Session.revokedBy (·.digest == s'.digest) now) := by
    refine (MemoryStore.updateFirst_eq_map (MemoryStore.pairwise_of_digests h.digests
      fun _ => beq_iff_eq.mp)).trans (List.map_congr_left fun s hmem => ?_)
    have hwas : (s.digest == s'.digest && s.revokedAt.isNone) = (s.digest == s'.digest) := by
      by_cases hdigest : s.digest = s'.digest
      · have hsame : s = s' := List.inj_on_of_nodup_map h.digests hmem
          (List.mem_of_find?_eq_some hs) hdigest
        rw [hsame, hopen, Option.isNone_none, Bool.and_true]
      · rw [beq_eq_false_iff_ne.mpr hdigest, Bool.false_and]
    show _ = if (s.digest == s'.digest && s.revokedAt.isNone) = true then _ else _
    rw [hwas]
  have hrevoked : Twins (t.revoke (·.id == row.id) now).2
      (m.revokeFirst (·.digest == s'.digest) now) := h.revoke htest rfl hfirst
  have hreplaced := hrotates.replaced
  rw [hclock.towardStorageEpoch, ← howner] at hreplaced
  refine hrevoked.insert ?_ ?_ hwhole.towardStorageEpoch hreplaced husers hsessions
  · rw [Tables.sessionIds_revoke, MemoryStore.sessionIds_revoked hfirst]
    exact hplace
  · rw [howner, Database.revoke_users]
    exact h.constrained.owners row hrotates.mem

/-- A rotation that fits is answered alike, and what it does is done on both sides. -/
theorem rotate (h : Twins db.settled m) {oldSecret newSecret : String} {expiresAt : Instant}
    {client : Client} (hclock : now.IsWhole)
    (hfits : (SessionRequest.rotate oldSecret newSecret expiresAt client).Fits db.settled now
      random) :
    AnsweredAlike (db.call limit ⟨.rotate oldSecret newSecret expiresAt client, now, random⟩)
      (m.call ⟨.rotate oldSecret newSecret expiresAt client, now, random⟩) := by
  obtain ⟨hwhole, -, hnew, hdraws⟩ := hfits
  -- the identifier is the one that is drawn, if one is
  obtain ⟨id, rest, hdraw, hid⟩ : ∃ id rest,
      (∀ old, db.settled.sessions.find? (·.digest == RefreshSecret.digest oldSecret) = some old →
        SessionState.at old.expiresAt old.revokedAt now = .active →
        Uuid.random? random = some (id, rest))
      ∧ ∀ old, db.settled.sessions.find? (·.digest == RefreshSecret.digest oldSecret) = some old →
        SessionState.at old.expiresAt old.revokedAt now = .active →
        ∀ row ∈ db.settled.sessions, row.id ≠ ⟨id⟩ := by
    by_cases hrotates : ∃ old,
        db.settled.sessions.find? (·.digest == RefreshSecret.digest oldSecret) = some old
        ∧ SessionState.at old.expiresAt old.revokedAt now = .active
    · obtain ⟨old, hold, hactive⟩ := hrotates
      obtain ⟨id, rest, hdraw, hid⟩ := hdraws old hold hactive
      exact ⟨id, rest, fun _ _ _ => hdraw, fun _ _ _ => hid⟩
    · exact ⟨.ofNat 0, random, fun old hold hactive => absurd ⟨old, hold, hactive⟩ hrotates,
        fun old hold hactive => absurd ⟨old, hold, hactive⟩ hrotates⟩
  have hanswer := h.rotationAnswer hid
  have htables : Ensures (Relational.rotateSession limit oldSecret newSecret expiresAt client)
      (db.surroundings now random) _ _ :=
    Relational.rotateSession_answered h.constrained hnew hdraw
  have hmemory : Ensures (MemoryStore.store.rotateSession oldSecret newSecret expiresAt client)
      (m.surroundings now random) _ _ := MemoryStore.rotateSession_answered rfl
  cases hrotated : m.rotationAnswer now oldSecret with
  | error fault =>
    rw [hrotated] at hanswer
    have htables' : Ensures (Relational.rotateSession limit oldSecret newSecret expiresAt client)
        (db.surroundings now random) (fun _ _ => False)
        (fun e w' => e = .refused fault ∧ w'.store.settled = db.settled) := by
      refine htables.mono ?_ ?_
      · rintro r _ ⟨hr, -⟩
        cases hr.symm.trans hanswer
      · rintro _ w' ⟨fault', hfault, rfl, hundone⟩
        obtain rfl := Except.error.inj (hfault.symm.trans hanswer)
        exact ⟨rfl, hundone⟩
    have hmemory' : Ensures (MemoryStore.store.rotateSession oldSecret newSecret expiresAt client)
        (m.surroundings now random) (fun _ _ => False)
        (fun e w' => e = .refused fault ∧ w'.store.users = m.users
          ∧ w'.store.sessions = m.sessions) := by
      refine hmemory.mono ?_ ?_
      · rintro r _ ⟨_, _, hr, -⟩
        cases hr.symm.trans hrotated
      · rintro _ w' ⟨fault', hfault, rfl, rfl⟩
        obtain rfl := Except.error.inj (hfault.symm.trans hrotated)
        exact ⟨rfl, rfl, rfl⟩
    refine Ensures.both_error (P := fun x y => AnsweredAlike (x.1, x.2.store) (y.1, y.2.store))
      (Ensures.map htables') (Ensures.map hmemory') ?_
    rintro _ w _ w' ⟨rfl, hundone⟩ ⟨rfl, husers, hsessions⟩
    exact ⟨.refused fault, h.same hundone husers hsessions⟩
  | ok found =>
    obtain ⟨s, user⟩ := found
    rw [hrotated] at hanswer
    have htables' : Ensures (Relational.rotateSession limit oldSecret newSecret expiresAt client)
        (db.surroundings now random)
        (fun r w' => r = ⟨⟨id⟩, user⟩ ∧ ∃ old, Relational.Rotates db.settled now oldSecret newSecret
          expiresAt client old r w'.store.settled)
        (fun _ _ => False) := by
      refine htables.mono ?_ ?_
      · rintro r _ ⟨hr, hrotates⟩
        exact ⟨Except.ok.inj (hr.symm.trans hanswer), hrotates⟩
      · rintro _ _ ⟨fault, hfault, -⟩
        cases hfault.symm.trans hanswer
    have hmemory' : Ensures (MemoryStore.store.rotateSession oldSecret newSecret expiresAt client)
        (m.surroundings now random)
        (fun r w' => r.user = user ∧ w'.store.users = m.users
          ∧ w'.store.sessions = (m.revokeFirst (·.digest == s.digest) now).sessions
            ++ [.fresh r.sessionId user.id newSecret now expiresAt client (some s.id)])
        (fun _ _ => False) := by
      refine hmemory.mono ?_ ?_
      · rintro r w' ⟨s', user', hr, rfl, rfl⟩
        obtain ⟨rfl, rfl⟩ := Prod.mk.inj (Except.ok.inj (hr.symm.trans hrotated))
        have hnext : (m.revokeFirst (·.digest == s'.digest) now).nextSessionId
            = m.nextSessionId := by
          unfold MemoryStore.nextSessionId MemoryStore.revokeFirst
          rw [MemoryStore.length_updateFirst]
        refine ⟨rfl, rfl, ?_⟩
        show _ ++ [Session.fresh (m.revokeFirst (·.digest == s'.digest) now).nextSessionId _ _ _ _ _
          _] = _
        rw [hnext]
        rfl
      · rintro _ _ ⟨fault, hfault, -⟩
        cases hfault.symm.trans hrotated
    refine Ensures.both_ok (P := fun x y => AnsweredAlike (x.1, x.2.store) (y.1, y.2.store))
      htables'.mapped hmemory'.mapped ?_
    rintro _ w _ w' ⟨_, rfl, rfl, old, hrotates⟩ ⟨r', rfl, rfl, husers, hsessions⟩
    refine ⟨.answered (.rotated ?_ ?_), h.rotated hclock hwhole hrotates hrotated husers hsessions⟩
    · exact Tables.getLast?_sessionIds hrotates.replaced
    · exact MemoryStore.getLast?_sessionIds hsessions

/-- A secret has an open session on both sides or on neither, and it is revoked on both. -/
theorem revokeSecret (h : Twins db.settled m) {secret : String} (hclock : now.IsWhole) :
    AnsweredAlike (db.call limit ⟨.revoke secret, now, random⟩) (m.call ⟨.revoke secret, now, random⟩) := by
  have htest : ∀ (row : SessionRow) (s : Session),
      row.Holds db.settled.sessionIds m.sessionIds s →
      (row.digest == RefreshSecret.digest secret) = (s.digest == RefreshSecret.digest secret) :=
    fun _ _ hs => by rw [hs.digest]
  have hopen : (db.settled.sessions.any fun row =>
        row.digest == RefreshSecret.digest secret && row.revokedAt.isNone)
      = m.sessions.any fun s =>
        s.digest == RefreshSecret.digest secret && s.revokedAt.isNone :=
    any_together h.sessions fun row s hs => by rw [htest row s hs, hs.revokedAt]
  have htables : Ensures (Relational.revokeSession secret) (db.surroundings now random) _ _ :=
    Relational.revokeSession_revokes
  have hmemory : Ensures (MemoryStore.store.revokeSession secret) (m.surroundings now random) _ _ :=
    MemoryStore.revokeSession_revokes h.digests
  have hmoment : now.floorMicros = now := hclock
  rw [hopen, hmoment] at htables
  generalize (m.sessions.any fun s =>
    s.digest == RefreshSecret.digest secret && s.revokedAt.isNone) = found at htables hmemory
  cases found with
  | true =>
    refine Ensures.both_ok (P := fun x y => AnsweredAlike (x.1, x.2.store) (y.1, y.2.store))
      (htables.mono (fun _ _ hx => hx.2) fun _ _ he => absurd he.1.symm Bool.false_ne_true).mapped
      (hmemory.mono (fun _ _ hx => hx.2) fun _ _ he => absurd he.1.symm Bool.false_ne_true).mapped ?_
    rintro _ w _ w' ⟨_, rfl, hrevoked⟩ ⟨_, rfl, husers, hsessions⟩
    refine ⟨.answered .revoked, ?_⟩
    dsimp only
    rw [hrevoked]
    exact h.revoke (fun row _ s hs => htest row s hs) husers hsessions
  | false =>
    refine Ensures.both_error (P := fun x y => AnsweredAlike (x.1, x.2.store) (y.1, y.2.store))
      (Ensures.map (htables.mono (fun _ _ hx => absurd hx.1 Bool.false_ne_true) fun _ _ he => he.2))
      (Ensures.map (hmemory.mono (fun _ _ hx => absurd hx.1 Bool.false_ne_true) fun _ _ he => he.2)) ?_
    rintro _ w _ w' ⟨rfl, hsame⟩ ⟨rfl, husers, hsessions⟩
    exact ⟨.refused .unknown, h.same hsame husers hsessions⟩

/-- The open sessions of a user are revoked on both sides, and there are as many of them. -/
theorem revokeUser (h : Twins db.settled m) {user : UserId} (hclock : now.IsWhole) :
    AnsweredAlike (db.call limit ⟨.revokeAll user, now, random⟩)
      (m.call ⟨.revokeAll user, now, random⟩) := by
  have htest : ∀ (row : SessionRow) (s : Session),
      row.Holds db.settled.sessionIds m.sessionIds s → (row.userId == user) = (s.userId == user) :=
    fun _ _ hs => by rw [hs.userId]
  refine Ensures.both_ok (P := fun x y => AnsweredAlike (x.1, x.2.store) (y.1, y.2.store))
    Relational.revokeAllSessions_revokes.mapped MemoryStore.revokeAllSessions_revokes.mapped ?_
  rintro _ w _ w' ⟨n, rfl, rfl, hrevoked⟩ ⟨n', rfl, rfl, husers, hsessions⟩
  have hcount : db.settled.sessions.countP (fun row => row.userId == user && row.revokedAt.isNone)
      = m.sessions.countP fun s => s.userId == user && s.revokedAt.isNone :=
    countP_together h.sessions fun row s hs => by rw [htest row s hs, hs.revokedAt]
  rw [hclock] at hrevoked
  refine ⟨?_, ?_⟩
  · dsimp only
    rw [hcount]
    exact .answered (.counted _)
  · dsimp only
    rw [hrevoked]
    exact h.revoke (fun row _ s hs => htest row s hs) husers hsessions

/-- **Every call that fits is answered alike by twins, and leaves twins.** -/
theorem call (h : Twins db.settled m) {c : SessionCall} (hfits : c.Fits db.settled) :
    AnsweredAlike (db.call limit c) (m.call c) := by
  obtain ⟨request, now, random⟩ := c
  obtain ⟨hclock, hrequest⟩ := hfits
  cases request with
  | create user secret expiresAt client predecessor => exact h.create hrequest
  | rotate oldSecret newSecret expiresAt client => exact h.rotate hclock hrequest
  | revoke secret => exact h.revokeSecret hclock
  | revokeAll user => exact h.revokeUser hclock

end Twins

/-! ## Runs of calls -/

/-- Makes one call after the other, and keeps what each of them ends with. -/
def replay {α : Type} (call : SessionCall → σ → α × σ) : List SessionCall → σ → List (α × σ)
  | [], _ => []
  | c :: rest, m => call c m :: replay call rest (call c m).2

/-- Every call of a run fits the tables at which it arrives. -/
def Database.AllFit (limit : Duration) : List SessionCall → Database → Prop
  | [], _ => True
  | c :: rest, db => c.Fits db.settled ∧ AllFit limit rest (db.call limit c).2

/-- **The store in memory simulates the tables.** -/
theorem memory_simulates_tables (limit : Duration) (calls : List SessionCall) (db : Database)
    (m : MemoryStore) (h : Twins db.settled m) (hfit : db.AllFit limit calls) :
    List.Forall₂ AnsweredAlike (replay (fun c db => db.call limit c) calls db)
      (replay (fun c m => m.call c) calls m) := by
  induction calls generalizing db m with
  | nil => exact .nil
  | cons c rest ih =>
    obtain ⟨hc, hrest⟩ := hfit
    have halike : AnsweredAlike (db.call limit c) (m.call c) := h.call hc
    exact .cons halike (ih _ _ halike.twins hrest)

/-! ### A household in both stores -/

/-- The user of a household. -/
def tenant : User where
  id := ⟨.ofNat 2⟩
  email := ⟨"a@example.com"⟩
  passwordHash := ""
  emailVerifiedAt := none
  createdAt := .epoch
  updatedAt := .epoch

/-- The household in memory, whatever the identifier of its session in the tables. -/
def householdInMemory : MemoryStore where
  users := [tenant]
  sessions := [{ Session.fresh ⟨.ofNat 1⟩ tenant.id "old" .epoch (.ofSeconds 60) ⟨none, none⟩ none
    with createdAt := .ofSeconds 1 }]

theorem household_twins (held : Uuid) :
    Twins (Relational.household held).store.tables householdInMemory := by
  have hemail : Email.parse "a@example.com" = .ok ⟨"a@example.com"⟩ := by decide +kernel
  refine ⟨Relational.household_constrained held, ?_, ?_⟩
  · rw [Relational.household_tables]
    exact .cons ⟨rfl, hemail, rfl, rfl, rfl, rfl⟩ .nil
  · rw [Relational.household_tables]
    exact .cons ⟨rfl, rfl, rfl, rfl, rfl, rfl, .nowhere⟩ .nil

/-- A session is rotated, its secret is presented again, and then all sessions are ended. -/
def householdCalls : List SessionCall :=
  [⟨.rotate "old" "new" (.ofSeconds 120) ⟨some "curl", none⟩, .ofSeconds 30, ⟨.ofSeed 1, none⟩⟩,
    ⟨.revoke "old", .ofSeconds 40, ⟨.ofSeed 2, some 0⟩⟩,
    ⟨.revokeAll tenant.id, .ofSeconds 50, ⟨.ofSeed 2, some 0⟩⟩]

theorem memory_simulates_tables_household :
    List.Forall₂ AnsweredAlike
      (replay (fun c db => db.call Relational.defaultLockTimeout c) householdCalls
        Relational.roomy.store)
      (replay (fun c m => m.call c) householdCalls householdInMemory) := by
  have hidle : Relational.roomy.store.atStart = none := (Relational.household_idle _).1
  have hsettled : Relational.roomy.store.settled = Relational.roomy.store.tables := by
    rw [Database.settled, hidle]
    rfl
  have hdraws : Relational.roomy.store.settled.DrawsNew ⟨.ofSeed 1, none⟩ := by
    have hdrawn : Uuid.marked (((ByteStream.ofSeed 1).take 16).reverse) = Relational.nextDrawn := by
      decide +kernel
    refine ⟨Relational.nextDrawn, _, by rw [← hdrawn]; rfl, ?_⟩
    rw [hsettled, Relational.roomy, Relational.household_tables]
    decide +kernel
  have hstorable : Client.Storable ⟨some "curl", none⟩ := by
    intro text htext
    rw [← Option.some.inj htext]
    decide
  refine memory_simulates_tables _ _ _ _ ?_
    ⟨⟨by decide, by decide, hstorable, ?_, fun _ _ _ => hdraws⟩, ⟨by decide, trivial⟩,
      ⟨by decide, trivial⟩, trivial⟩
  · rw [hsettled]
    exact household_twins _
  · rw [hsettled]
    exact Relational.household_new _

/-- **What the store in memory does not look at**: a predecessor that is not there, and an identifier that
is taken already. The tables refuse both. -/
theorem memory_accepts_more :
    (Twins Relational.roomy.store.tables householdInMemory
      ∧ (∃ row ∈ Relational.roomy.store.tables.users, row.id = tenant.id)
      ∧ Relational.roomy.store.tables.New "new" ∧ Relational.roomy.store.Fair
      ∧ (Relational.createSession tenant.id "new" (.ofSeconds 120) ⟨none, none⟩ (some ⟨.ofNat 9⟩)
          Relational.roomy).1 = .error (.refused (Relational.sessionFault
            (.server (.dangling "sessions_rotated_from_fkey"))))
      ∧ (MemoryStore.store.createSession tenant.id "new" (.ofSeconds 120) ⟨none, none⟩
          (some ⟨.ofNat 9⟩) (householdInMemory.surroundings (.ofSeconds 30) ⟨.ofSeed 1, none⟩)).1
            = .ok ⟨.ofNat 2⟩)
    ∧ Twins Relational.crowded.store.tables householdInMemory
      ∧ (∃ row ∈ Relational.crowded.store.tables.users, row.id = tenant.id)
      ∧ Relational.crowded.store.tables.New "new" ∧ Relational.crowded.store.Fair
      ∧ (Relational.createSession tenant.id "new" (.ofSeconds 120) ⟨none, none⟩ none
          Relational.crowded).1 = .error (.refused (Relational.sessionFault
            (.server (.duplicate "sessions_pkey"))))
      ∧ (MemoryStore.store.createSession tenant.id "new" (.ofSeconds 120) ⟨none, none⟩ none
          (householdInMemory.surroundings (.ofSeconds 30) ⟨.ofSeed 1, none⟩)).1
            = .ok ⟨.ofNat 2⟩ := by
  have hroomy := Relational.household_idle (.ofNat 1)
  have hcrowded := Relational.household_idle Relational.nextDrawn
  have htenant : ∀ held, ∃ row ∈ (Relational.household held).store.tables.users,
      row.id = tenant.id := by
    intro held
    rw [Relational.household_tables]
    exact ⟨Relational.tenantRow, List.mem_singleton_self _, rfl⟩
  refine ⟨⟨household_twins _, htenant _, Relational.household_new _, hroomy.2, ?_, ?_⟩,
    household_twins _, htenant _, Relational.household_new _, hcrowded.2, ?_, ?_⟩
  all_goals decide +kernel

end SessionAuth
