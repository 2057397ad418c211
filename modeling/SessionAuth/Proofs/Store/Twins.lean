import Mathlib.Data.List.Forall2
import SessionAuth.Proofs.Account.Email
import SessionAuth.Proofs.Store.Answer
import SessionAuth.Proofs.Store.Memory

/-!
Two stores that hold the same.

The tables and the store in memory are compared row by row, in the order of insertion (`Twins`). What is
in a row is the same on both sides, but for identifiers and times of creation; where a session has
replaced another one, the place of the other one is the same. Whatever is looked for is then found at
the same place in both, and what is revoked in both is the same again.
-/

set_option autoImplicit false

namespace SessionAuth

open Database (UserRow SessionRow NewSession Tables)

/-! ## Rows side by side -/

section Lists

variable {α β : Type} {R : α → β → Prop} {p : α → Bool} {q : β → Bool} {l : List α} {l' : List β}

/-- What is found first on one side is found first on the other side, at the same place. -/
theorem found_together (h : List.Forall₂ R l l') (hpq : ∀ a b, R a b → p a = q b) :
    (l.find? p = none ∧ l'.find? q = none)
      ∨ ∃ (k : Nat) (a : α) (b : β), l.find? p = some a ∧ l'.find? q = some b
        ∧ l[k]? = some a ∧ l'[k]? = some b ∧ R a b := by
  induction h with
  | nil => exact .inl ⟨rfl, rfl⟩
  | @cons a b rest rest' hab _ ih =>
    rw [List.find?_cons, List.find?_cons, ← hpq a b hab]
    cases p a with
    | true => exact .inr ⟨0, a, b, rfl, rfl, rfl, rfl, hab⟩
    | false =>
      rcases ih with hnone | ⟨k, a', b', ha, hb, hka, hkb, hab'⟩
      · exact .inl hnone
      · exact .inr ⟨k + 1, a', b', ha, hb, hka, hkb, hab'⟩

theorem any_together (h : List.Forall₂ R l l') (hpq : ∀ a b, R a b → p a = q b) :
    l.any p = l'.any q := by
  induction h with
  | nil => rfl
  | cons hab _ ih => rw [List.any_cons, List.any_cons, hpq _ _ hab, ih]

theorem countP_together (h : List.Forall₂ R l l') (hpq : ∀ a b, R a b → p a = q b) :
    l.countP p = l'.countP q := by
  induction h with
  | nil => rfl
  | cons hab _ ih => rw [List.countP_cons, List.countP_cons, hpq _ _ hab, ih]

theorem map_together {γ : Type} {f : α → γ} {g : β → γ} (h : List.Forall₂ R l l')
    (hfg : ∀ a b, R a b → f a = g b) : l.map f = l'.map g := by
  have hmapped : List.Forall₂ Eq (l.map f) (l'.map g) := List.rel_map hfg h
  rwa [List.forall₂_eq_eq_eq] at hmapped

/-- What is changed on both sides is related again. -/
theorem changed_together {S : α → β → Prop} {f : α → α} {g : β → β} (h : List.Forall₂ R l l')
    (hfg : ∀ a ∈ l, ∀ b, R a b → S (f a) (g b)) : List.Forall₂ S (l.map f) (l'.map g) := by
  induction h with
  | nil => exact .nil
  | cons hab _ ih =>
    exact .cons (hfg _ List.mem_cons_self _ hab)
      (ih fun a ha => hfg a (List.mem_cons_of_mem _ ha))

end Lists

/-! ## The relation -/

/-- A row holds a user: the address in it is read as that of the user. -/
structure Database.UserRow.Holds (row : UserRow) (u : User) : Prop where
  id : row.id = u.id
  email : Email.parse row.email = .ok u.email
  passwordHash : row.passwordHash = u.passwordHash
  emailVerifiedAt : row.emailVerifiedAt = u.emailVerifiedAt
  createdAt : row.createdAt = u.createdAt
  updatedAt : row.updatedAt = u.updatedAt

/-- Who is held by a row is loaded from it. -/
theorem Database.UserRow.Holds.loads {row : UserRow} {u : User} (h : row.Holds u) :
    Relational.loadRow row = .ok u := by
  unfold Relational.loadRow
  rw [h.email, h.id, h.passwordHash, h.emailVerifiedAt, h.createdAt, h.updatedAt]
  rfl

/-- The identifiers of the sessions in the tables. -/
def Database.Tables.sessionIds (t : Tables) : List SessionId := t.sessions.map (·.id)

/-- The identifiers of the sessions in memory. -/
def MemoryStore.sessionIds (m : MemoryStore) : List SessionId := m.sessions.map (·.id)

/-- **The same place** in two lists of identifiers, or no place in either of them. -/
inductive SamePlace (ids ids' : List SessionId) : Option SessionId → Option SessionId → Prop where
  | nowhere : SamePlace ids ids' none none
  | place {k : Nat} {p q : SessionId} (hp : ids[k]? = some p) (hq : ids'[k]? = some q) :
      SamePlace ids ids' (some p) (some q)

/-- A place stays where it is when more comes behind. -/
theorem SamePlace.append {ids ids' : List SessionId} {p q : Option SessionId}
    (h : SamePlace ids ids' p q) (later later' : List SessionId) :
    SamePlace (ids ++ later) (ids' ++ later') p q := by
  cases h with
  | nowhere => exact .nowhere
  | @place k p q hp hq =>
    have hlt := (List.getElem?_eq_some_iff.mp hp).1
    have hlt' := (List.getElem?_eq_some_iff.mp hq).1
    refine .place (k := k) ?_ ?_
    · rw [List.getElem?_append_left hlt, hp]
    · rw [List.getElem?_append_left hlt', hq]

/-- Whoever has a place in the tables has a row. -/
theorem SamePlace.exists_row {t : Tables} {ids' : List SessionId} {p q : Option SessionId}
    (h : SamePlace t.sessionIds ids' p q) {id : SessionId} (hp : p = some id) :
    ∃ row ∈ t.sessions, row.id = id := by
  subst hp
  cases h with
  | place hp _ => exact List.mem_map.mp (List.mem_of_getElem? hp)

/-- A row holds a session, given the identifiers of all rows on either side. Neither its identifier nor
the time of its creation is looked at. -/
structure Database.SessionRow.Holds (ids ids' : List SessionId) (row : SessionRow) (s : Session) :
    Prop where
  userId : row.userId = s.userId
  digest : row.digest = s.digest
  expiresAt : row.expiresAt = s.expiresAt
  revokedAt : row.revokedAt = s.revokedAt
  userAgent : row.userAgent = s.client.userAgent
  ip : row.ip = s.client.ip.map IpAddress.toText
  predecessor : SamePlace ids ids' row.rotatedFrom s.rotatedFrom

/-- **Tables and a store in memory that hold the same users and sessions**, row by row. -/
structure Twins (t : Tables) (m : MemoryStore) : Prop where
  constrained : t.Constrained
  users : List.Forall₂ UserRow.Holds t.users m.users
  sessions : List.Forall₂ (SessionRow.Holds t.sessionIds m.sessionIds) t.sessions m.sessions

namespace Twins

variable {t : Tables} {m : MemoryStore}

/-- Digests are unique in memory as well. -/
theorem digests (h : Twins t m) : (m.sessions.map (·.digest)).Nodup := by
  rw [← map_together h.sessions fun _ _ hrow => hrow.digest]
  exact h.constrained.digests

/-- Users are found together. -/
theorem user (h : Twins t m) (u : UserId) :
    (t.users.find? (·.id == u) = none ∧ m.users.find? (·.id == u) = none)
      ∨ ∃ (row : UserRow) (user : User), t.users.find? (·.id == u) = some row
        ∧ m.users.find? (·.id == u) = some user ∧ row.Holds user := by
  have htest : ∀ (row : UserRow) (v : User), row.Holds v → (row.id == u) = (v.id == u) :=
    fun _ _ hv => by rw [hv.id]
  rcases found_together h.users htest with hnone | ⟨-, row, user, hrow, huser, -, -, hv⟩
  · exact .inl hnone
  · exact .inr ⟨row, user, hrow, huser, hv⟩

/-- Sessions are found together, at the same place. -/
theorem session (h : Twins t m) (secret : String) :
    (t.sessions.find? (·.digest == RefreshSecret.digest secret) = none
        ∧ m.sessionOf? secret = none)
      ∨ ∃ (row : SessionRow) (s : Session),
        t.sessions.find? (·.digest == RefreshSecret.digest secret) = some row
        ∧ m.sessionOf? secret = some s ∧ row.Holds t.sessionIds m.sessionIds s
        ∧ SamePlace t.sessionIds m.sessionIds (some row.id) (some s.id) := by
  have htest : ∀ (row : SessionRow) (s : Session), row.Holds t.sessionIds m.sessionIds s →
      (row.digest == RefreshSecret.digest secret) = (s.digest == RefreshSecret.digest secret) :=
    fun _ _ hs => by rw [hs.digest]
  rcases found_together h.sessions htest with hnone | ⟨k, row, s, hrow, hs, hkrow, hks, hholds⟩
  · exact .inl hnone
  · refine .inr ⟨row, s, hrow, hs, hholds, .place (k := k) ?_ ?_⟩
    · rw [Tables.sessionIds, List.getElem?_map, hkrow]
      rfl
    · rw [MemoryStore.sessionIds, List.getElem?_map, hks]
      rfl

end Twins

/-- Where nothing has changed, twins stay twins. -/
theorem Twins.same {t t' : Tables} {m m' : MemoryStore} (h : Twins t m) (ht : t' = t)
    (husers : m'.users = m.users) (hsessions : m'.sessions = m.sessions) : Twins t' m' := by
  have hids : m'.sessionIds = m.sessionIds := congrArg (List.map _) hsessions
  subst ht
  refine ⟨h.constrained, ?_, ?_⟩
  · rw [husers]
    exact h.users
  · rw [hids, hsessions]
    exact h.sessions

/-! ## Revocations -/

/-- The session behind a revocation. -/
def Session.revokedBy (test : Session → Bool) (moment : Instant) (s : Session) : Session :=
  if test s && s.revokedAt.isNone then { s with revokedAt := some moment } else s

theorem Session.revokedBy_id (test : Session → Bool) (moment : Instant) (s : Session) :
    (s.revokedBy test moment).id = s.id := by
  unfold revokedBy
  split <;> rfl

/-- A row and a session that are revoked together go on together. -/
theorem Database.SessionRow.Holds.revokedBy {ids ids' : List SessionId} {row : SessionRow}
    {s : Session} {test : SessionRow → Bool} {test' : Session → Bool}
    (h : row.Holds ids ids' s) (htest : test row = test' s) (moment : Instant) :
    (row.revokedBy test moment).Holds ids ids' (s.revokedBy test' moment) := by
  unfold SessionRow.revokedBy Session.revokedBy
  rw [htest, h.revokedAt]
  split
  · exact { h with revokedAt := rfl }
  · exact h

/-- A revocation keeps the identifiers in the tables. -/
theorem Database.Tables.sessionIds_revoke (t : Tables) (test : SessionRow → Bool)
    (moment : Instant) : (t.revoke test moment).2.sessionIds = t.sessionIds := by
  unfold sessionIds
  rw [revoke_sessions, List.map_map]
  exact List.map_congr_left fun row _ => revokedBy_marks.id row

/-- A revocation keeps the identifiers in memory. -/
theorem MemoryStore.sessionIds_revoked {m m' : MemoryStore} {test : Session → Bool}
    {moment : Instant} (h : m'.sessions = m.sessions.map (Session.revokedBy test moment)) :
    m'.sessionIds = m.sessionIds := by
  unfold sessionIds
  rw [h, List.map_map]
  exact List.map_congr_left fun s _ => s.revokedBy_id test moment

/-- **What is revoked on both sides is the same again.** -/
theorem Twins.revoke {t : Tables} {m m' : MemoryStore} {test : SessionRow → Bool}
    {test' : Session → Bool} {moment : Instant} (h : Twins t m)
    (htest : ∀ row ∈ t.sessions, ∀ s, row.Holds t.sessionIds m.sessionIds s → test row = test' s)
    (husers : m'.users = m.users)
    (hsessions : m'.sessions = m.sessions.map (Session.revokedBy test' moment)) :
    Twins (t.revoke test moment).2 m' := by
  refine ⟨h.constrained.revoke, ?_, ?_⟩
  · rw [Database.revoke_users, husers]
    exact h.users
  · rw [t.sessionIds_revoke, MemoryStore.sessionIds_revoked hsessions, Database.revoke_sessions,
      hsessions]
    exact changed_together h.sessions fun row hrow s hs => hs.revokedBy (htest row hrow s hs) moment

/-! ## Insertions -/

/-- The session that is new. -/
def Session.fresh (id : SessionId) (userId : UserId) (secret : String) (now expiresAt : Instant)
    (client : Client) (rotatedFrom : Option SessionId) : Session where
  id
  userId
  digest := RefreshSecret.digest secret
  createdAt := now
  expiresAt
  revokedAt := none
  client
  rotatedFrom

/-- **What is added on both sides is the same again**, if the predecessors stand at the same place. -/
theorem Twins.insert {t t' : Tables} {m m' : MemoryStore} {id id' : SessionId} {userId : UserId}
    {secret : String} {now moment expiresAt : Instant} {client : Client} {p q : Option SessionId}
    (h : Twins t m) (hplace : SamePlace t.sessionIds m.sessionIds p q)
    (howner : ∃ u ∈ t.users, u.id = userId) (hwhole : expiresAt.towardStorageEpoch = expiresAt)
    (hins : t.insertSession (.of id userId (RefreshSecret.digest secret) expiresAt client p) moment
      = .ok t')
    (husers : m'.users = m.users)
    (hsessions : m'.sessions = m.sessions ++ [.fresh id' userId secret now expiresAt client q]) :
    Twins t' m' := by
  have hconstrained : t'.Constrained :=
    h.constrained.added howner (fun _ hp => hplace.exists_row hp) hins
  obtain ⟨rfl, -, -⟩ := Database.insertSession_ok hins
  have hids' : m'.sessionIds = m.sessionIds ++ [id'] := by
    unfold MemoryStore.sessionIds
    rw [hsessions, List.map_append]
    rfl
  have hids : Tables.sessionIds { t with sessions := t.sessions ++ [NewSession.row
      (.of id userId (RefreshSecret.digest secret) expiresAt client p) moment] }
      = t.sessionIds ++ [id] := List.map_append
  refine ⟨hconstrained, ?_, ?_⟩
  · rw [husers]
    exact h.users
  · rw [hids, hids', hsessions]
    refine List.rel_append ?_ (.cons ?_ .nil)
    · exact h.sessions.imp fun row s hs =>
        { hs with predecessor := hs.predecessor.append [id] [id'] }
    · exact ⟨rfl, rfl, hwhole, rfl, rfl, rfl, hplace.append [id] [id']⟩

end SessionAuth
