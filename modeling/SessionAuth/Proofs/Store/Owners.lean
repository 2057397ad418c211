import SessionAuth.Proofs.Service.Effect
import SessionAuth.Proofs.Store.AppendOnly

/-!
Whose sessions a call of a store touches.

A call that opens a session adds a row for the user it is opened for. A call with a secret touches the
sessions of the user who holds the secret, and nobody else's: this is where digests have to tell
secrets apart, and in the tables, where a rotation revokes by identifier, identifiers have to tell
rows apart. A call with a user touches the sessions of that user. Both stores do no more than that
(`Store.Confines`), however their calls end.
-/

set_option autoImplicit false

namespace SessionAuth

open Database (SessionRow NewSession Tables Within)

variable {σ ρ : Type} {owner : ρ → UserId} {digest : ρ → Bytes} {u : UserId}
  {rows rows' : List ρ}

/-! ## Rows and their owners -/

/-- **Only sessions of one user are touched**: every row stays in its place and with its owner, those of
other users are as they were, and what has been added belongs to the user. -/
structure OnlyOf (owner : ρ → UserId) (u : UserId) (rows rows' : List ρ) : Prop where
  kept : Extends (fun r r' => owner r' = owner r ∧ (owner r ≠ u → r' = r)) rows rows'
  added : ∀ (i : Nat) (r : ρ), rows.length ≤ i → rows'[i]? = some r → owner r = u

namespace OnlyOf

/-- Where nothing is added, only the rows that were there are to be looked at. -/
theorem of_length (h : Extends (fun r r' => owner r' = owner r ∧ (owner r ≠ u → r' = r)) rows rows')
    (hlength : rows'.length = rows.length) : OnlyOf owner u rows rows' := by
  refine ⟨h, fun i r hi hr => ?_⟩
  rw [List.getElem?_eq_none (hlength ▸ hi)] at hr
  cases hr

theorem refl (rows : List ρ) : OnlyOf owner u rows rows :=
  of_length (Extends.refl (fun _ => ⟨rfl, fun _ => rfl⟩) rows) rfl

/-- A row of the user is added. -/
theorem snoc (h : OnlyOf owner u rows rows') {row : ρ} (hrow : owner row = u) :
    OnlyOf owner u rows (rows' ++ [row]) := by
  refine ⟨h.kept.append [row], fun i r hi hr => ?_⟩
  rcases List.mem_append.mp (List.mem_of_getElem? hr) with hmem | hmem
  · by_cases hlt : i < rows'.length
    · rw [List.getElem?_append_left hlt] at hr
      exact h.added i r hi hr
    · -- the row is the last one, whatever else is in the list
      rw [List.getElem?_append_right (Nat.not_lt.mp hlt)] at hr
      rw [List.mem_singleton.mp (List.mem_of_getElem? hr)]
      exact hrow
  · rw [List.mem_singleton.mp hmem]
    exact hrow

/-- Rows are changed that belong to the user, and still do. -/
theorem map {f : ρ → ρ} (howner : ∀ r, owner (f r) = owner r)
    (hothers : ∀ r ∈ rows, owner r ≠ u → f r = r) : OnlyOf owner u rows (rows.map f) := by
  refine of_length (fun i r hr => ⟨f r, ?_, howner r, hothers r (List.mem_of_getElem? hr)⟩)
    (List.length_map _)
  rw [List.getElem?_map, hr]
  rfl

end OnlyOf

/-- **Only sessions of the holder of a secret are touched**: of a user who owns a row with its digest; or
none are. -/
def OnlyOfHolder (owner : ρ → UserId) (digest : ρ → Bytes) (secret : String)
    (rows rows' : List ρ) : Prop :=
  rows' = rows ∨ ∃ row ∈ rows, digest row = RefreshSecret.digest secret
    ∧ OnlyOf owner (owner row) rows rows'

/-! ## Stores -/

/-- **A store that confines its calls**: it touches no sessions where users are added and looked for, and
otherwise those of the user who is meant. Where a secret says who that is, the rows have to be distinct
to begin with. -/
structure Store.Confines (store : Store σ) (ready : σ → Prop) (sessions : σ → List ρ)
    (owner : ρ → UserId) (digest : ρ → Bytes) (distinct : List ρ → Prop) : Prop where
  createUser : ∀ {w : World σ} (u : User), ready w.store →
    Spares (sessions ·.store) (store.createUser u) w
  findUserByEmail : ∀ {w : World σ} (email : Email), ready w.store →
    Spares (sessions ·.store) (store.findUserByEmail email) w
  createSession : ∀ {w : World σ} (u : UserId) (secret : String) (expiresAt : Instant)
    (client : Client), ready w.store →
    EndsIn (fun w' => OnlyOf owner u (sessions w.store) (sessions w'.store))
      (store.createSession u secret expiresAt client none) w
  rotateSession : ∀ {w : World σ} (oldSecret newSecret : String) (expiresAt : Instant)
    (client : Client), ready w.store → distinct (sessions w.store) →
    EndsIn (fun w' => OnlyOfHolder owner digest oldSecret (sessions w.store) (sessions w'.store))
      (store.rotateSession oldSecret newSecret expiresAt client) w
  revokeSession : ∀ {w : World σ} (secret : String), ready w.store →
    distinct (sessions w.store) →
    EndsIn (fun w' => OnlyOfHolder owner digest secret (sessions w.store) (sessions w'.store))
      (store.revokeSession secret) w
  revokeAllSessions : ∀ {w : World σ} (u : UserId), ready w.store →
    EndsIn (fun w' => OnlyOf owner u (sessions w.store) (sessions w'.store))
      (store.revokeAllSessions u) w

/-! ## The tables -/

namespace Database

/-- **Rows told apart**, by their identifiers and by their digests. -/
def SessionRow.Distinct (rows : List SessionRow) : Prop :=
  (rows.map (·.id)).Nodup ∧ (rows.map (·.digest)).Nodup

/-- Rows are revoked that belong to one user. -/
theorem onlyOf_revokedBy {rows : List SessionRow} {test : SessionRow → Bool} {moment : Instant}
    (h : ∀ r ∈ rows, test r = true → r.userId = u) :
    OnlyOf SessionRow.userId u rows (rows.map (SessionRow.revokedBy test moment)) := by
  refine OnlyOf.map revokedBy_marks.userId fun r hr hother => ?_
  have htest : test r = false := Bool.eq_false_iff.mpr fun htest => hother (h r hr htest)
  unfold SessionRow.revokedBy
  rw [htest]
  rfl

/-- The sessions that count. -/
def sessionRows (db : Database) : List SessionRow := db.settled.sessions

end Database

namespace Relational

open Database (sessionRows)

variable {w w' : World Database}

/-- What leaves the rows of the sessions alone leaves alone those that count. -/
theorem sessionRows_same (hin : Within w w') (h : w.store.Ready)
    (ht : w'.store.tables.sessions = w.store.tables.sessions) :
    sessionRows w'.store = sessionRows w.store := by
  rw [sessionRows, sessionRows, hin.settled h, h.settled, ht]

/-- A rotation marks the row of the old secret, and adds one for its owner. -/
theorem Rotates.onlyOf {t t' : Tables} {now expiresAt : Instant} {oldSecret newSecret : String}
    {client : Client} {old : SessionRow} {r : RotatedSession}
    (h : Rotates t now oldSecret newSecret expiresAt client old r t')
    (hids : (t.sessions.map (·.id)).Nodup) :
    OnlyOf SessionRow.userId old.userId t.sessions t'.sessions := by
  rw [h.sessions_eq]
  refine OnlyOf.snoc (Database.onlyOf_revokedBy fun row hrow htest => ?_) rfl
  have hid : row.id = old.id := beq_iff_eq.mp htest
  rw [List.inj_on_of_nodup_map hids hrow h.mem hid]

/-- **The tables confine their calls.** -/
theorem confines (lockTimeout : Duration) :
    (store lockTimeout).Confines Database.Ready sessionRows SessionRow.userId SessionRow.digest
      SessionRow.Distinct where
  createUser {w} u hw := by
    refine (createUser_ensures u hw.faithful).mono ?_ ?_
    · rintro _ w' ⟨-, hin, hins⟩
      exact sessionRows_same hin hw (Database.insertUser_sessions hins)
    · rintro _ w' ⟨hin, ht⟩
      exact sessionRows_same hin hw (congrArg Tables.sessions ht)
  findUserByEmail {w} email hw := by
    refine (findUserByEmail_ensures hw.faithful).mono ?_ ?_
    · rintro _ w' ⟨hin, ht, -⟩
      exact sessionRows_same hin hw (congrArg Tables.sessions ht)
    · rintro _ w' ⟨hin, ht⟩
      exact sessionRows_same hin hw (congrArg Tables.sessions ht)
  createSession {w} u secret expiresAt client hw := by
    refine (createSession_ensures hw.faithful).mono ?_ ?_
    · rintro _ w' ⟨hin, hins⟩
      rw [sessionRows, sessionRows, hin.settled hw, hw.settled, (Database.insertSession_ok hins).1]
      exact (OnlyOf.refl _).snoc rfl
    · rintro _ w' ⟨hin, ht⟩
      rw [sessionRows_same hin hw (congrArg Tables.sessions ht)]
      exact OnlyOf.refl _
  rotateSession {w} oldSecret newSecret expiresAt client hw hdistinct := by
    refine (rotateSession_ensures hw.idle hw.faithful).mono ?_ ?_
    · rintro _ w' ⟨⟨⟨old, hrot⟩, -⟩, hdone⟩
      rw [sessionRows, hw.settled] at hdistinct ⊢
      rw [sessionRows, hdone.settled]
      exact Or.inr ⟨old, hrot.mem, hrot.digest_eq, hrot.onlyOf hdistinct.1⟩
    · rintro _ w' hundone
      exact Or.inl (congrArg Tables.sessions (hundone.settled.trans hw.settled.symm))
  revokeSession {w} secret hw hdistinct := by
    refine (revokeSession_ensures hw.faithful).mono ?_ ?_
    · rintro _ w' ⟨⟨row, hrow, hdigest, -⟩, hin, ht⟩
      rw [sessionRows, hw.settled] at hdistinct ⊢
      rw [sessionRows, hin.settled hw, ht]
      refine Or.inr ⟨row, hrow, hdigest, Database.onlyOf_revokedBy fun r hr htest => ?_⟩
      have hsame : r.digest = row.digest := (beq_iff_eq.mp htest).trans hdigest.symm
      rw [List.inj_on_of_nodup_map hdistinct.2 hr hrow hsame]
    · rintro _ w' ⟨hin, ht⟩
      exact Or.inl (sessionRows_same hin hw (congrArg Tables.sessions ht))
  revokeAllSessions {w} u hw := by
    refine (revokeAllSessions_ensures hw.faithful).mono ?_ ?_
    · rintro _ w' ⟨hin, hrevoked⟩
      rw [sessionRows, sessionRows, hin.settled hw, hw.settled,
        ← congrArg (fun p => p.2.sessions) hrevoked]
      exact Database.onlyOf_revokedBy fun r _ htest => beq_iff_eq.mp htest
    · rintro _ w' ⟨hin, ht⟩
      rw [sessionRows_same hin hw (congrArg Tables.sessions ht)]
      exact OnlyOf.refl _

end Relational

/-! ## The store in memory -/

namespace MemoryStore

/-- A session is marked that belongs to the user. -/
theorem onlyOf_revokeFirst {m : MemoryStore} {test : Session → Bool} {now : Instant}
    (h : ∀ a, m.sessions.find? test = some a → a.userId = u) :
    OnlyOf Session.userId u m.sessions (m.revokeFirst test now).sessions := by
  refine OnlyOf.of_length (extends_updateFirst (fun _ => ⟨rfl, fun _ => rfl⟩) fun a ha => ?_)
    (length_updateFirst _ _ _)
  exact ⟨rfl, fun hother => absurd (h a ha) hother⟩

/-- A session of a secret belongs to the holder of the secret. -/
theorem mem_of_sessionOf? {m : MemoryStore} {secret : String} {a : Session}
    (h : m.sessionOf? secret = some a) :
    a ∈ m.sessions ∧ a.digest = RefreshSecret.digest secret :=
  ⟨List.mem_of_find?_eq_some h, Database.eq_of_find? h⟩

/-- **The store in memory confines its calls**, whatever sessions it holds. -/
theorem confines :
    store.Confines (fun _ => True) MemoryStore.sessions Session.userId Session.digest
      (fun _ => True) where
  createUser {w} u _ := by
    refine answering_ensures (fun _ => rfl) (fun _ _ => rfl) fun _ => Act.store_bind ?_
    split
    · rfl
    · exact Act.modifyStore_bind rfl
  findUserByEmail {w} email _ :=
    answering_ensures (fun _ => rfl) (fun _ _ => rfl) fun _ => Act.store_bind rfl
  createSession {w} u secret expiresAt client _ :=
    answering_ensures (fun _ => OnlyOf.refl _) (fun _ _ => OnlyOf.refl _) fun _ =>
      Act.store_bind (Act.now_bind (Act.modifyStore_bind ((OnlyOf.refl _).snoc rfl)))
  rotateSession {w} oldSecret newSecret expiresAt client _ _ := by
    refine answering_ensures (fun _ => Or.inl rfl) (fun _ _ => Or.inl rfl) fun _ => ?_
    refine Act.store_bind (Act.now_bind ?_)
    split
    · exact Or.inl rfl
    rename_i old hold
    split
    · exact Or.inl rfl
    · exact Or.inl rfl
    split
    · exact Or.inl rfl
    rename_i user huser
    obtain ⟨hmem, hdigest⟩ := mem_of_sessionOf? hold
    refine Act.modifyStore_bind (Or.inr ⟨old, hmem, hdigest, OnlyOf.snoc ?_ ?_⟩)
    · -- what is marked is the first session with the digest, and that is the one that was found
      refine onlyOf_revokeFirst (m := w.store) fun a ha => ?_
      rw [hdigest] at ha
      rw [← Option.some.inj (hold.symm.trans ha)]
    · exact Database.eq_of_find? (f := User.id) huser
  revokeSession {w} secret _ _ := by
    refine answering_ensures (fun _ => Or.inl rfl) (fun _ _ => Or.inl rfl) fun _ => ?_
    refine Act.store_bind (Act.now_bind ?_)
    dsimp only
    split
    · rename_i hany
      -- the first open session of the secret is marked, and its owner is the holder of the secret
      obtain ⟨a, ha⟩ := Option.isSome_iff_exists.mp
        (List.find?_isSome.mpr (List.any_eq_true.mp hany))
      have htest := List.find?_some ha
      rw [Bool.and_eq_true, beq_iff_eq] at htest
      refine Or.inr ⟨a, List.mem_of_find?_eq_some ha, htest.1, ?_⟩
      refine onlyOf_revokeFirst (m := w.store) fun b hb => ?_
      rw [← Option.some.inj (ha.symm.trans hb)]
    · exact Or.inl rfl
  revokeAllSessions {w} u _ := by
    refine answering_ensures (fun _ => OnlyOf.refl _) (fun _ _ => OnlyOf.refl _) fun _ => ?_
    refine Act.store_bind (Act.now_bind (Act.modifyStore_bind ?_))
    refine OnlyOf.map (fun r => ?_) fun r _ hother => ?_
    · split <;> rfl
    · split
      · rename_i htest
        rw [Bool.and_eq_true, beq_iff_eq] at htest
        exact absurd htest.1 hother
      · rfl

end MemoryStore

end SessionAuth
