import SessionAuth.Proofs.Database.Constraints
import SessionAuth.Proofs.Store.Advance
import SessionAuth.Proofs.Store.Memory

/-!
Sessions are only ever added, and revoked once.

A row stays where it is, with everything in it, but that the time of its revocation may be filled in
once. On the tables this is a matter of the statements, three of which revoke; each of them leaves a
row alone that is revoked already. The store in memory does the same by other means: it marks the
first session that passes a test, or all of them.
-/

set_option autoImplicit false

namespace SessionAuth

open Database (SessionRow NewSession Tables Statement Outcome)

/-! ## Lists that only grow -/

/-- **A list extends another one**: each entry has a counterpart in the same place. -/
def Extends {ρ : Type} (P : ρ → ρ → Prop) (rows rows' : List ρ) : Prop :=
  ∀ (i : Nat) (r : ρ), rows[i]? = some r → ∃ r', rows'[i]? = some r' ∧ P r r'

namespace Extends

variable {ρ : Type} {P : ρ → ρ → Prop} {rows rows' rows'' : List ρ}

theorem refl (hP : ∀ r, P r r) (rows : List ρ) : Extends P rows rows := by
  intro i r hr
  exact ⟨r, hr, hP r⟩

theorem trans (hP : ∀ a b c, P a b → P b c → P a c) (h : Extends P rows rows')
    (h' : Extends P rows' rows'') : Extends P rows rows'' := by
  intro i r hr
  obtain ⟨r', hr', hp⟩ := h i r hr
  obtain ⟨r'', hr'', hp'⟩ := h' i r' hr'
  exact ⟨r'', hr'', hP r r' r'' hp hp'⟩

theorem append (h : Extends P rows rows') (added : List ρ) :
    Extends P rows (rows' ++ added) := by
  intro i r hr
  obtain ⟨r', hr', hp⟩ := h i r hr
  refine ⟨r', ?_, hp⟩
  obtain ⟨hi, -⟩ := List.getElem?_eq_some_iff.mp hr'
  rw [List.getElem?_append_left hi]
  exact hr'

theorem map {f : ρ → ρ} (hf : ∀ r, P r (f r)) (rows : List ρ) :
    Extends P rows (rows.map f) := by
  intro i r hr
  refine ⟨f r, ?_, hf r⟩
  rw [List.getElem?_map, hr]
  rfl

end Extends

/-! ## Rows of the tables -/

/-- **A row persists**: nothing in it changes but the time of its revocation, and that one does not
change either once it is set. -/
structure Database.SessionRow.Persists (r r' : SessionRow) : Prop where
  id : r'.id = r.id
  userId : r'.userId = r.userId
  digest : r'.digest = r.digest
  createdAt : r'.createdAt = r.createdAt
  expiresAt : r'.expiresAt = r.expiresAt
  userAgent : r'.userAgent = r.userAgent
  ip : r'.ip = r.ip
  rotatedFrom : r'.rotatedFrom = r.rotatedFrom
  revokedAt : r.revokedAt.isSome → r'.revokedAt = r.revokedAt

namespace Database

theorem SessionRow.Persists.refl (r : SessionRow) : r.Persists r :=
  ⟨rfl, rfl, rfl, rfl, rfl, rfl, rfl, rfl, fun _ => rfl⟩

theorem SessionRow.Persists.trans {a b c : SessionRow} (h : a.Persists b) (h' : b.Persists c) :
    a.Persists c := by
  refine ⟨h'.id.trans h.id, h'.userId.trans h.userId, h'.digest.trans h.digest,
    h'.createdAt.trans h.createdAt, h'.expiresAt.trans h.expiresAt, h'.userAgent.trans h.userAgent,
    h'.ip.trans h.ip, h'.rotatedFrom.trans h.rotatedFrom, fun hrev => ?_⟩
  have hb : b.revokedAt = a.revokedAt := h.revokedAt hrev
  rw [← hb] at hrev ⊢
  exact h'.revokedAt hrev

/-- A revocation passes over the rows that are revoked. -/
theorem SessionRow.persists_revokedBy (test : SessionRow → Bool) (moment : Instant)
    (r : SessionRow) : r.Persists (r.revokedBy test moment) := by
  unfold SessionRow.revokedBy
  split
  · rename_i hopen
    refine ⟨rfl, rfl, rfl, rfl, rfl, rfl, rfl, rfl, fun hrev => ?_⟩
    rw [Bool.and_eq_true, Option.isNone_iff_eq_none] at hopen
    rw [hopen.2] at hrev
    cases hrev
  · exact SessionRow.Persists.refl r

/-- **Sessions are only added, and revoked once**; and no digest gets a second row. -/
structure Tables.AppendOnly (t t' : Tables) : Prop where
  sessions : Extends SessionRow.Persists t.sessions t'.sessions
  digests : (t.sessions.map (·.digest)).Nodup → (t'.sessions.map (·.digest)).Nodup

namespace Tables.AppendOnly

variable {t t' : Tables}

theorem refl (t : Tables) : t.AppendOnly t :=
  ⟨Extends.refl SessionRow.Persists.refl _, fun h => h⟩

theorem trans {a b c : Tables} (h : a.AppendOnly b) (h' : b.AppendOnly c) : a.AppendOnly c :=
  ⟨h.sessions.trans (fun _ _ _ => SessionRow.Persists.trans) h'.sessions,
    fun hdigests => h'.digests (h.digests hdigests)⟩

theorem insertUser {u : UserRow} (h : t.insertUser u = .ok t') : t.AppendOnly t' := by
  rw [(insertUser_ok h).1]
  exact ⟨Extends.refl SessionRow.Persists.refl _, fun hdigests => hdigests⟩

theorem insertSession {s : NewSession} {now : Instant} (h : t.insertSession s now = .ok t') :
    t.AppendOnly t' := by
  obtain ⟨rfl, -, hdigest⟩ := insertSession_ok h
  refine ⟨(Extends.refl SessionRow.Persists.refl _).append _, fun hdigests => ?_⟩
  exact nodup_map_snoc hdigests hdigest

theorem revoke (t : Tables) (test : SessionRow → Bool) (moment : Instant) :
    t.AppendOnly (t.revoke test moment).2 := by
  refine ⟨Extends.map (SessionRow.persists_revokedBy test moment) _, fun hdigests => ?_⟩
  have hmarks : Marks (SessionRow.revokedBy test moment) := revokedBy_marks
  rw [revoke_sessions, List.map_map]
  exact (congrArg List.Nodup (List.map_congr_left fun r _ => hmarks.digest r)).mpr hdigests

/-- **No statement does anything else to the sessions.** -/
theorem statements : StatementsMoveAlong AppendOnly where
  refl := refl
  trans _ _ _ := trans
  run {t t' now s o} hrun := by
    cases s with
    | insertUser u => exact insertUser (inserted hrun)
    | insertSession s => exact insertSession (inserted hrun)
    | revokeById id moment =>
      obtain rfl := congrArg Prod.snd (Except.ok.inj hrun)
      exact revoke t _ _
    | revokeByDigest digest =>
      obtain rfl := congrArg Prod.snd (Except.ok.inj hrun)
      exact revoke t _ _
    | revokeByUser userId =>
      obtain rfl := congrArg Prod.snd (Except.ok.inj hrun)
      exact revoke t _ _
    | _ =>
      -- all other statements leave the tables alone
      obtain rfl := congrArg Prod.snd (Except.ok.inj hrun)
      exact refl t

end Tables.AppendOnly

end Database

/-! ## Sessions in memory -/

/-- **A session persists**, in the same sense. -/
structure Session.Persists (a b : Session) : Prop where
  id : b.id = a.id
  userId : b.userId = a.userId
  digest : b.digest = a.digest
  createdAt : b.createdAt = a.createdAt
  expiresAt : b.expiresAt = a.expiresAt
  client : b.client = a.client
  rotatedFrom : b.rotatedFrom = a.rotatedFrom
  revokedAt : a.revokedAt.isSome → b.revokedAt = a.revokedAt

theorem Session.Persists.refl (a : Session) : a.Persists a :=
  ⟨rfl, rfl, rfl, rfl, rfl, rfl, rfl, fun _ => rfl⟩

theorem Session.Persists.trans {a b c : Session} (h : a.Persists b) (h' : b.Persists c) :
    a.Persists c := by
  refine ⟨h'.id.trans h.id, h'.userId.trans h.userId, h'.digest.trans h.digest,
    h'.createdAt.trans h.createdAt, h'.expiresAt.trans h.expiresAt, h'.client.trans h.client,
    h'.rotatedFrom.trans h.rotatedFrom, fun hrev => ?_⟩
  have hb : b.revokedAt = a.revokedAt := h.revokedAt hrev
  rw [← hb] at hrev ⊢
  exact h'.revokedAt hrev

/-- A session that is not revoked may be. -/
theorem Session.persists_revoked {a : Session} (hopen : a.revokedAt = none) (moment : Instant) :
    a.Persists { a with revokedAt := some moment } := by
  refine ⟨rfl, rfl, rfl, rfl, rfl, rfl, rfl, fun hrev => ?_⟩
  rw [hopen] at hrev
  cases hrev

namespace MemoryStore

/-- Sessions are only added, and revoked once. -/
def AppendOnly (m m' : MemoryStore) : Prop := Extends Session.Persists m.sessions m'.sessions

theorem appendOnly_refl (m : MemoryStore) : m.AppendOnly m :=
  Extends.refl Session.Persists.refl m.sessions

/-- What is marked is the first session that passes the test, and it is marked in its place. -/
theorem extends_updateFirst {ρ : Type} {P : ρ → ρ → Prop} {test : ρ → Bool} {f : ρ → ρ}
    (hP : ∀ r, P r r) {rows : List ρ} (hf : ∀ r, rows.find? test = some r → P r (f r)) :
    Extends P rows (updateFirst test f rows) := by
  induction rows with
  | nil => exact Extends.refl hP []
  | cons a rest ih =>
    unfold updateFirst
    by_cases ha : test a = true
    · rw [if_pos ha]
      have hfirst : P a (f a) := hf a (List.find?_cons_of_pos ha)
      intro i r hr
      cases i with
      | zero =>
        obtain rfl := Option.some.inj hr
        exact ⟨f a, rfl, hfirst⟩
      | succ i => exact ⟨r, hr, hP r⟩
    · rw [if_neg ha]
      have hrest : Extends P rest (updateFirst test f rest) := by
        refine ih fun r hr => hf r ?_
        rw [List.find?_cons_of_neg ha]
        exact hr
      intro i r hr
      cases i with
      | zero => exact ⟨r, hr, hP r⟩
      | succ i => exact hrest i r hr

/-- A revocation that is guarded by a test leaves alone what is revoked. -/
theorem extends_revokeFirst {m : MemoryStore} {test : Session → Bool} {now : Instant}
    (hopen : ∀ a, m.sessions.find? test = some a → a.revokedAt = none) :
    m.AppendOnly (m.revokeFirst test now) := by
  refine extends_updateFirst Session.Persists.refl fun a ha => ?_
  exact Session.persists_revoked (hopen a ha) now

/-- In a rotation, the mark goes to the first session with the digest, and that is the one that was found
active. -/
theorem extends_replaced {m : MemoryStore} {secret : String} {old : Session} {now : Instant}
    (hold : m.sessionOf? secret = some old) (hactive : old.state now = .active) :
    m.AppendOnly (m.revokeFirst (·.digest == old.digest) now) := by
  refine extends_revokeFirst fun a ha => ?_
  -- both look for the same digest, so the first session they find is the same
  have hdigest : old.digest = RefreshSecret.digest secret := Database.eq_of_find? hold
  rw [hdigest] at ha
  have heq : old = a := Option.some.inj (hold.symm.trans ha)
  rw [← heq]
  exact Relational.revokedAt_of_active hactive

/-- **Every call of the store in memory only adds sessions, or revokes them once.** -/
theorem appendOnly : store.MovesAlong AppendOnly where
  refl := appendOnly_refl
  trans _ _ _ h h' := Extends.trans (fun _ _ _ => Session.Persists.trans) h h'
  createUser u := fun w => by
    refine answering_ensures (fun _ => appendOnly_refl _) (fun _ _ => appendOnly_refl _) fun _ => ?_
    refine Act.store_bind ?_
    split
    · exact appendOnly_refl _
    · exact appendOnly_refl _
  findUserByEmail email := fun w =>
    answering_ensures (fun _ => appendOnly_refl _) (fun _ _ => appendOnly_refl _)
      fun _ => appendOnly_refl _
  createSession u secret expiresAt client rotatedFrom := fun w =>
    answering_ensures (fun _ => appendOnly_refl _) (fun _ _ => appendOnly_refl _)
      fun _ => (appendOnly_refl w.store).append _
  rotateSession oldSecret newSecret expiresAt client := fun w => by
    refine answering_ensures (fun _ => appendOnly_refl _) (fun _ _ => appendOnly_refl _) fun _ => ?_
    refine Act.store_bind (Act.now_bind ?_)
    split
    · exact appendOnly_refl _
    rename_i old hold
    split
    · exact appendOnly_refl _
    · exact appendOnly_refl _
    rename_i hactive
    split
    · exact appendOnly_refl _
    exact Act.modifyStore_bind (Extends.append (extends_replaced hold hactive) _)
  revokeSession secret := fun w => by
    refine answering_ensures (fun _ => appendOnly_refl _) (fun _ _ => appendOnly_refl _) fun _ => ?_
    refine Act.store_bind (Act.now_bind ?_)
    dsimp only
    split
    · -- the test that picks the session asks for one that is not revoked
      refine extends_revokeFirst fun a ha => ?_
      have htest := List.find?_some ha
      rw [Bool.and_eq_true, Option.isNone_iff_eq_none] at htest
      exact htest.2
    · exact appendOnly_refl _
  revokeAllSessions u := fun w => by
    refine answering_ensures (fun _ => appendOnly_refl _) (fun _ _ => appendOnly_refl _) fun _ => ?_
    refine Act.store_bind (Act.now_bind (Act.modifyStore_bind ?_))
    refine Extends.map (fun a => ?_) _
    split
    · rename_i htest
      rw [Bool.and_eq_true, Option.isNone_iff_eq_none] at htest
      exact Session.persists_revoked htest.2 _
    · exact Session.Persists.refl a

end MemoryStore

end SessionAuth
