import SessionAuth.Proofs.Service.Moves
import SessionAuth.Proofs.Store.Rotation

/-!
What the repositories do to a database, statement by statement.

Everything that an operation of the repositories does to a database it does by sending statements. So a
preorder on databases to which every statement keeps is one to which every operation keeps, however it
ends and whatever the database does to its statements (`StepsAlong`); where a statement looks for a
session, it matters which digest it looks for. The proof walks through the repositories once.

What the tables keep is one use of it. Suppose that every statement moves the tables along a preorder:
then so does every operation, also if the database skips some of its statements or returns rows that are
none of its own. That is not obvious, because a transaction that is rolled back takes its statements
back. Two relations are therefore carried at once (`Advances`): what counts moves along the preorder, and
what is pending is ahead of what counts. Opening, closing and dropping a transaction only ever replaces
one by the other.
-/

set_option autoImplicit false

namespace SessionAuth

open Database (Tables Statement Outcome QueryFault)

variable {ε δ α : Type}

/-! ## Steps -/

namespace Database

/-- The digest of the session that a statement looks for, if it looks for one. -/
def Statement.wanted? : Statement → Option Bytes
  | .activeSession digest | .lockSession digest | .revokeByDigest digest => some digest
  | _ => none

/-- **A preorder to which statements keep**: all that look for no session, and those that look for one by
a digest of some kind. -/
structure StepsAlong (D : Bytes → Prop) (M : Database → Database → Prop) : Prop where
  refl : ∀ db, M db db
  trans : ∀ a b c, M a b → M b c → M a c
  execute : ∀ s : Statement, (∀ d ∈ s.wanted?, D d) → Keeps (World.Moves M) (execute s)

namespace StepsAlong

variable {D : Bytes → Prop} {M : Database → Database → Prop} {a : Act Database ε α}

theorem pure (h : StepsAlong D M) (x : α) :
    Keeps (World.Moves M) (pure x : Act Database ε α) := Keeps.pure (fun w => h.refl w.store) x

theorem refuse (h : StepsAlong D M) (fault : ε) :
    Keeps (World.Moves M) (Act.refuse fault : Act Database ε α) :=
  Keeps.throw (fun w => h.refl w.store) _

theorem bind (h : StepsAlong D M) {β : Type} {f : α → Act Database ε β}
    (ha : Keeps (World.Moves M) a) (hf : ∀ x, Keeps (World.Moves M) (f x)) :
    Keeps (World.Moves M) (a >>= f) :=
  Keeps.bind (fun _ _ _ h₁ h₂ => h.trans _ _ _ h₁ h₂) ha hf

theorem draw (h : StepsAlong D M) (f : RandomSource → Option (α × RandomSource)) :
    Keeps (World.Moves M) (Act.draw f : Act Database ε α) := by
  intro w
  refine Act.draw_ensures (fun _ _ _ => ?_) fun _ => ?_
  · exact h.refl w.store
  · exact h.refl w.store

theorem ofExcept (h : StepsAlong D M) (r : Except ε α) :
    Keeps (World.Moves M) (Act.ofExcept r : Act Database ε α) := by
  cases r with
  | ok x => exact h.pure x
  | error fault => exact h.refuse fault

theorem report (h : StepsAlong D M) (e : Event) :
    Keeps (World.Moves M) (Act.report e : Act Database ε Unit) :=
  Keeps.of_step fun w => h.refl w.store

theorem mapFault {f : ε → δ} (ha : Keeps (World.Moves M) a) :
    Keeps (World.Moves M) (mapFault f a) := by
  intro w
  exact mapFault_ensures (ha w)

theorem attempt (ha : Keeps (World.Moves M) a) :
    Keeps (World.Moves M) (attempt a : Act Database δ (Except ε α)) := by
  intro w
  refine attempt_ensures ((ha w).mono (fun _ _ h => h) ?_)
  rintro (_ | _ | _) _ h <;> exact h

/-- What a failed action leaves behind is rolled back, or so it is tried. -/
theorem orAbandon (h : StepsAlong D M) (ha : Keeps (World.Moves M) a) :
    Keeps (World.Moves M) (orAbandon a) := by
  intro w
  refine orAbandon_ensures ((ha w).mono (fun _ _ hw => hw) fun _ w' hw => ?_)
  have hrollback : World.Moves M w' (Database.execute .rollback w').2 :=
    (h.execute .rollback nofun).step w'
  exact h.trans _ _ _ hw hrollback

theorem fetch (h : StepsAlong D M) {s : Statement} (hs : ∀ d ∈ s.wanted?, D d) :
    Keeps (World.Moves M) (fetch s) :=
  h.bind (h.execute s hs) fun _ => h.pure _

theorem rollBack (h : StepsAlong D M) :
    Keeps (World.Moves M) (rollBack : Act Database ε Unit) := by
  refine h.bind (attempt (h.orAbandon (h.execute .rollback nofun))) ?_
  rintro (fault | _)
  · exact h.report _
  · exact h.pure _

theorem inTransaction (h : StepsAlong D M) {ofQuery : QueryFault → ε}
    {a : Act Database ε (Except ε α)} (ha : Keeps (World.Moves M) a) :
    Keeps (World.Moves M) (inTransaction ofQuery a) := by
  refine h.bind (h.orAbandon ?_) ?_
  · refine h.bind (mapFault (h.execute .start nofun)) fun _ => h.bind ha ?_
    rintro (fault | x)
    · exact h.pure _
    · exact h.bind (mapFault (h.execute .commit nofun)) fun _ => h.pure _
  · rintro (fault | x)
    · exact h.bind h.rollBack fun _ => h.refuse fault
    · exact h.pure x

/-! ## Repositories -/

variable {client : Client} {expiresAt : Instant} {secret : String}

theorem relationalExecute (h : StepsAlong D M) {s : Statement} (hs : ∀ d ∈ s.wanted?, D d) :
    Keeps (World.Moves M) (Relational.execute s) := mapFault (h.execute s hs)

theorem relationalFetch (h : StepsAlong D M) {s : Statement} (hs : ∀ d ∈ s.wanted?, D d) :
    Keeps (World.Moves M) (Relational.fetch s) := mapFault (h.fetch hs)

theorem findUser (h : StepsAlong D M) {s : Statement} (hs : ∀ d ∈ s.wanted?, D d) :
    Keeps (World.Moves M) (Relational.findUser s) := by
  refine h.bind (mapFault (h.fetch hs)) ?_
  rintro (_ | row)
  · exact h.pure _
  · exact h.bind (h.ofExcept _) fun _ => h.pure _

theorem findUserById (h : StepsAlong D M) (id : UserId) :
    Keeps (World.Moves M) (Relational.findUserById id) := h.findUser nofun

theorem findUserByEmail (h : StepsAlong D M) (email : Email) :
    Keeps (World.Moves M) (Relational.findUserByEmail email) := h.findUser nofun

theorem createUser (h : StepsAlong D M) (u : User) :
    Keeps (World.Moves M) (Relational.createUser u) := by
  refine h.bind (attempt (h.execute (.insertUser (.ofUser u)) nofun)) fun answer => ?_
  split
  · exact h.pure _
  · split
    · exact h.refuse _
    · exact h.refuse _
  · exact h.refuse _

theorem createSession (h : StepsAlong D M) (userId : UserId) (secret : String)
    (rotatedFrom : Option SessionId) : Keeps (World.Moves M)
      (Relational.createSession userId secret expiresAt client rotatedFrom) := by
  have hdraw : Keeps (World.Moves M)
      (SessionId.mk <$> Act.draw Uuid.random? : Act Database SessionFault SessionId) := by
    rw [map_eq_pure_bind]
    exact h.bind (h.draw _) fun _ => h.pure _
  refine h.bind hdraw fun id => ?_
  exact h.bind (h.relationalExecute nofun) fun _ => h.pure _

theorem validateSession (h : StepsAlong D M) (hsecret : D (RefreshSecret.digest secret)) :
    Keeps (World.Moves M) (Relational.validateSession secret) := by
  have hwanted : ∀ d ∈ (Statement.activeSession (RefreshSecret.digest secret)).wanted?, D d := by
    rintro _ ⟨⟩
    exact hsecret
  refine h.bind (h.relationalFetch hwanted) ?_
  rintro (_ | row)
  · exact h.refuse _
  refine h.bind (h.ofExcept _) fun session => ?_
  refine h.bind (attempt (h.findUserById _)) ?_
  rintro (fault | _ | user)
  · exact h.bind (h.report _) fun _ => h.refuse _
  · exact h.refuse _
  · exact h.pure _

theorem replaceSession (h : StepsAlong D M) (old : Relational.LockedSession)
    (newSecret : String) : Keeps (World.Moves M)
      (Relational.replaceSession old newSecret expiresAt client) := by
  intro w
  refine Act.now_bind ?_
  split
  · exact h.pure _ w
  · exact h.pure _ w
  refine h.bind (h.relationalExecute (s := .revokeById old.id _) nofun) (fun revoked => ?_) w
  by_cases hz : revoked.changed = 0
  · simp only [hz, if_true]
    exact h.pure _
  simp only [hz, if_false]
  refine h.bind (h.createSession _ _ _) fun id => ?_
  refine h.bind (attempt (h.findUserById _)) ?_
  rintro (fault | _ | user)
  · exact h.pure _
  · exact h.pure _
  · exact h.pure _

theorem rotateSession (h : StepsAlong D M) (limit : Duration)
    (hsecret : D (RefreshSecret.digest secret)) (newSecret : String) : Keeps (World.Moves M)
      (Relational.rotateSession limit secret newSecret expiresAt client) := by
  have hwanted : ∀ d ∈ (Statement.lockSession (RefreshSecret.digest secret)).wanted?, D d := by
    rintro _ ⟨⟩
    exact hsecret
  rw [Relational.rotateSession_eq]
  refine h.inTransaction ?_
  refine h.bind (h.relationalExecute nofun) fun _ => ?_
  refine h.bind (h.relationalFetch hwanted) ?_
  rintro (_ | row)
  · exact h.pure _
  · exact h.bind (h.ofExcept _) fun old => h.replaceSession old newSecret

theorem revokeSession (h : StepsAlong D M) (hsecret : D (RefreshSecret.digest secret)) :
    Keeps (World.Moves M) (Relational.revokeSession secret) := by
  have hwanted : ∀ d ∈ (Statement.revokeByDigest (RefreshSecret.digest secret)).wanted?, D d := by
    rintro _ ⟨⟩
    exact hsecret
  refine h.bind (h.relationalExecute hwanted) fun revoked => ?_
  split
  · exact h.refuse _
  · exact h.pure _

theorem revokeAllSessions (h : StepsAlong D M) (userId : UserId) :
    Keeps (World.Moves M) (Relational.revokeAllSessions userId) :=
  h.bind (h.relationalExecute nofun) fun _ => h.pure _

/-- **Every call of the store keeps to the preorder**, if every digest may be looked for. -/
theorem movesAlong (h : StepsAlong (fun _ => True) M) (lockTimeout : Duration) :
    (Relational.store lockTimeout).MovesAlong M where
  refl := h.refl
  trans := h.trans
  createUser := h.createUser
  findUserByEmail := h.findUserByEmail
  createSession _ secret _ _ rotatedFrom := h.createSession _ secret rotatedFrom
  rotateSession _ newSecret _ _ := h.rotateSession lockTimeout trivial newSecret
  revokeSession _ := h.revokeSession trivial
  revokeAllSessions := h.revokeAllSessions

end StepsAlong

/-! ## What the tables keep -/

variable {R : Tables → Tables → Prop}

/-- **A preorder that every statement moves the tables along.** -/
structure StatementsMoveAlong (R : Tables → Tables → Prop) : Prop where
  refl : ∀ t, R t t
  trans : ∀ a b c, R a b → R b c → R a c
  run : ∀ {t t' : Tables} {now : Instant} {s : Statement} {o : Outcome},
    t.run now s = .ok (o, t') → R t t'

/-- **A database advances**: if the pending tables were ahead of those that count, then they still are,
and those that count are ahead of what they were. -/
def Advances (R : Tables → Tables → Prop) (db db' : Database) : Prop :=
  R db.settled db.tables → R db.settled db'.settled ∧ R db'.settled db'.tables

namespace StatementsMoveAlong

theorem advances_refl (h : StatementsMoveAlong R) (db : Database) : Advances R db db := by
  intro hpending
  exact ⟨h.refl _, hpending⟩

theorem advances_trans (h : StatementsMoveAlong R) {a b c : Database} (hab : Advances R a b)
    (hbc : Advances R b c) : Advances R a c := by
  intro hpending
  obtain ⟨hcounts, hpending'⟩ := hab hpending
  obtain ⟨hcounts', hpending''⟩ := hbc hpending'
  exact ⟨h.trans _ _ _ hcounts hcounts', hpending''⟩

/-- A database whose tables and whose open transaction are as they were has advanced. -/
theorem advances_same (h : StatementsMoveAlong R) {db db' : Database}
    (htables : db'.tables = db.tables) (hstart : db'.atStart = db.atStart) :
    Advances R db db' := by
  have hsettled : db'.settled = db.settled := by
    rw [settled, settled, htables, hstart]
  intro hpending
  rw [hsettled, htables]
  exact ⟨h.refl _, hpending⟩

/-- Between requests nothing is pending. -/
theorem advances_idle (h : StatementsMoveAlong R) (db : Database) {db' : Database}
    (hidle : db.atStart = none) (hdb : Advances R db db') : R db.settled db'.settled := by
  have hsettled : db.settled = db.tables := by
    rw [settled, hidle]
    rfl
  refine (hdb ?_).1
  rw [hsettled]
  exact h.refl _

/-- Opening and closing a transaction moves what counts up to what is pending, or the other way round. -/
theorem advances_bounded (h : StatementsMoveAlong R) {s : Statement} (hs : s.isBoundary = true)
    (db : Database) : Advances R db (bounded s db) := by
  intro hpending
  cases s with
  | start => exact ⟨hpending, h.refl _⟩
  | commit => exact ⟨hpending, h.refl _⟩
  | rollback => exact ⟨h.refl _, h.refl _⟩
  | _ => cases hs

/-- A statement inside a transaction moves what is pending; without one, that is what counts. -/
theorem advances_run (h : StatementsMoveAlong R) {s : Statement} {db : Database} {t : Tables}
    {now : Instant} {o : Outcome} (hrun : db.tables.run now s = .ok (o, t)) :
    Advances R db { db with tables := t, log := db.log ++ [s] } := by
  have ht : R db.tables t := h.run hrun
  intro hpending
  unfold settled at hpending ⊢
  cases hstart : db.atStart with
  | none =>
    rw [hstart] at hpending
    exact ⟨ht, h.refl t⟩
  | some before =>
    rw [hstart] at hpending
    exact ⟨h.refl before, h.trans _ _ _ hpending ht⟩

/-- **However a statement ends, the database has advanced.** -/
theorem execute (h : StatementsMoveAlong R) (s : Statement) :
    Keeps (World.Moves (Advances R)) (execute s) := by
  intro w
  have hsent : Advances R w.store (sent s w).store := h.advances_same rfl rfl
  -- what is carried out and what comes back altered meet here
  have hperform : Ensures (perform s) (sent s w) (fun _ w' => Advances R w.store w'.store)
      (fun _ w' => Advances R w.store w'.store) := by
    cases hs : s.isBoundary with
    | true => exact perform_boundary hs (h.advances_bounded hs w.store)
    | false =>
      refine (perform_ensures hs).mono ?_ ?_
      · rintro o _ ⟨t, hrun, rfl⟩
        exact h.advances_run hrun
      · rintro _ _ ⟨rfl, -⟩
        exact hsent
  exact execute_ensures (fun _ => h.advances_refl _) (fun _ => hsent) (fun _ _ => hsent)
    (fun _ => hsent) (fun _ _ => hperform) (fun _ => hperform)

/-- The database advances step by step. -/
theorem steps (h : StatementsMoveAlong R) : StepsAlong (fun _ => True) (Advances R) where
  refl := h.advances_refl
  trans _ _ _ := h.advances_trans
  execute s _ := h.execute s

end StatementsMoveAlong

end Database

end SessionAuth
