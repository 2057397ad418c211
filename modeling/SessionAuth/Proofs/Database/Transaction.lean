import SessionAuth.Proofs.Database.Statement

/-!
Transactions: what is done in one is done as a whole or not at all.

`inTransaction_ensures` is the statement for every action that stays inside its transaction. Where a
value is returned, the transaction has been closed by one `COMMIT` and the tables are those that the
action left. In every other case the tables are those from before, and what closed the transaction
was a `ROLLBACK`, if anything did: a database may refuse that statement too, and then the
transaction is dropped and counts as rolled back.

The invariant that carries this is `Pending`: nothing has closed the transaction yet, and dropping it
would bring back the tables from before.
-/

set_option autoImplicit false

namespace SessionAuth

/-- A failure with its fault in other words. -/
def Failure.map {ε δ : Type} (f : ε → δ) : Failure ε → Failure δ
  | .refused fault => .refused (f fault)
  | .stalled => .stalled
  | .panicked => .panicked

namespace Database

variable {ε δ α : Type} {u v w : World Database} {s : Statement} {n : Nat}

/-! ## Faults in other words -/

theorem mapFault_ensures {f : ε → δ} {a : Act Database ε α} {Q : α → World Database → Prop}
    {F : Failure δ → World Database → Prop}
    (h : Ensures a w Q (fun e t => F (e.map f) t)) :
    Ensures (mapFault f a) w Q F := by
  unfold Ensures mapFault at *
  rcases h' : a w with ⟨(_ | _ | _) | x, t⟩ <;> rw [h'] at h <;> exact h

theorem attempt_ensures {a : Act Database ε α} {Q : Except ε α → World Database → Prop}
    {F : Failure δ → World Database → Prop}
    (h : Ensures a w (fun x t => Q (.ok x) t) (fun e t => match e with
      | .refused fault => Q (.error fault) t
      | .stalled => F .stalled t
      | .panicked => F .panicked t)) :
    Ensures (attempt a) w Q F := by
  unfold Ensures attempt at *
  rcases h' : a w with ⟨(_ | _ | _) | x, t⟩ <;> rw [h'] at h <;> exact h

/-- Running an action that is abandoned where it fails, written out. -/
theorem orAbandon_apply (a : Act Database ε α) (w : World Database) :
    orAbandon a w
      = match a w with
        | (.ok x, t) => (.ok x, t)
        | (.error e, t) => (.error e, (execute .rollback t).2) := by
  rcases h : a w with ⟨e | x, t⟩
  · simp only [orAbandon, tryCatch, tryCatchThe, MonadExceptOf.tryCatch, ExceptT.tryCatch,
      ExceptT.mk, bind, StateT.bind, h]
    rfl
  · simp only [orAbandon, tryCatch, tryCatchThe, MonadExceptOf.tryCatch, ExceptT.tryCatch,
      ExceptT.mk, bind, StateT.bind, h]
    rfl

theorem orAbandon_ensures {a : Act Database ε α} {Q : α → World Database → Prop}
    {F : Failure ε → World Database → Prop}
    (h : Ensures a w Q (fun e t => F e (execute .rollback t).2)) :
    Ensures (orAbandon a) w Q F := by
  unfold Ensures at h ⊢
  rw [orAbandon_apply]
  rcases h' : a w with ⟨e | x, t⟩ <;> rw [h'] at h <;> exact h

/-! ## What has closed a transaction -/

/-- Whether a statement closes a transaction. -/
def Statement.closes : Statement → Bool
  | .commit | .rollback => true
  | _ => false

/-- Whether the statement at a position of the log was carried out. -/
def takesEffect (db : Database) (position : Nat) : Bool :=
  match db.interferences.lookup position with
  | none | some (.patch _) => true
  | _ => false

/-- The statements that closed a transaction, among those behind a position of the log. -/
def closings (db : Database) (n : Nat) : List Statement :=
  (db.log.zipIdx.drop n).filterMap fun p =>
    if p.1.closes && db.takesEffect p.2 then some p.1 else none

theorem closings_self (db : Database) : db.closings db.log.length = [] := by
  unfold closings
  rw [List.drop_eq_nil_of_le (by simp)]
  rfl

/-- What is behind a position grows with the log. -/
theorem closings_append {db db' : Database} {l : List Statement} (hl : db'.log = db.log ++ l)
    (hi : db'.interferences = db.interferences) (hn : n ≤ db.log.length) :
    db'.closings n = db.closings n ++ (l.zipIdx db.log.length).filterMap fun p =>
      if p.1.closes && db.takesEffect p.2 then some p.1 else none := by
  -- whether a statement took effect is decided by its position, not by what is sent later
  have he : ∀ i, db'.takesEffect i = db.takesEffect i := by
    intro i
    unfold takesEffect
    rw [hi]
  unfold closings
  simp only [hl, he]
  rw [List.zipIdx_append, List.drop_append_of_le_length (by simpa using hn),
    List.filterMap_append, Nat.zero_add]

/-- Nothing closes a transaction inside it. -/
theorem Within.closings_eq (h : Within v w) (hn : n ≤ v.store.log.length) :
    w.store.closings n = v.store.closings n := by
  obtain ⟨l, hl, hb⟩ := h.log
  rw [closings_append hl h.interferences hn]
  refine (List.append_right_eq_self).mpr (List.filterMap_eq_nil_iff.mpr ?_)
  rintro ⟨s, i⟩ hp
  have hs : s.isBoundary = false := hb s (List.fst_mem_of_mem_zipIdx hp)
  cases s <;> simp_all [Statement.isBoundary, Statement.closes]

/-! ## Opening and closing -/

/-- The database after a statement that opens or closes a transaction. -/
def bounded (s : Statement) (db : Database) : Database :=
  match s with
  | .start => { db with atStart := some db.tables, log := db.log ++ [s] }
  | .rollback => { db with tables := db.settled, atStart := none, log := db.log ++ [s] }
  | _ => { db with atStart := none, log := db.log ++ [s] }

/-- A statement has come to nothing: it was never answered, or not carried out. -/
def Missed (s : Statement) (w w' : World Database) : Prop :=
  (w' = w ∧ w.store.answers = false)
    ∨ (w' = sent s w ∧ w.store.takesEffect w.store.log.length = false)

/-- None of the three statements looks at the rows, so that they cannot be refused. -/
theorem perform_boundary {Q : Outcome → World Database → Prop}
    {F : Failure QueryFault → World Database → Prop} (hs : s.isBoundary = true)
    (h : Q .nothing { w with store := bounded s w.store }) :
    Ensures (perform s) (sent s w) Q F := by
  cases s <;> first | exact h | simp [Statement.isBoundary] at hs

/-- A truthful database opens or closes the transaction, or the statement comes to nothing. -/
theorem execute_boundary (hs : s.isBoundary = true) (hw : w.store.Truthful) :
    Ensures (execute s) w
      (fun _ w' => w' = { w with store := bounded s w.store }
        ∧ w.store.takesEffect w.store.log.length = true)
      (fun _ w' => Missed s w w') := by
  refine execute_ensures (fun h => Or.inl ⟨rfl, h⟩) (fun h => Or.inr ⟨rfl, ?_⟩)
    (fun _ h => Or.inr ⟨rfl, ?_⟩) (fun h => absurd rfl (hw _ (mem_of_lookup h))) (fun _ h => ?_)
    (fun h => ?_)
  · simp [takesEffect, h]
  · simp [takesEffect, h]
  · exact perform_boundary hs ⟨rfl, by simp [takesEffect, h]⟩
  · exact perform_boundary hs ⟨rfl, by simp [takesEffect, h]⟩

/-- **Nothing is decided yet**: since `db`, nothing has closed a transaction, and dropping the open
one would bring back the tables of `db`. -/
structure Pending (db db' : Database) : Prop where
  settled : db'.settled = db.tables
  closings : db'.closings db.log.length = []
  grown : db.log.length ≤ db'.log.length
  interferences : db'.interferences = db.interferences
  answers : db'.answers = db.answers

/-- **Everything is undone**: dropping what may be open brings back the tables of `db`, and nothing but
a `ROLLBACK` has closed a transaction since. Where none has, each one that was sent was refused. -/
structure RolledBack (db db' : Database) : Prop where
  settled : db'.settled = db.tables
  closings : (db'.closings db.log.length = [.rollback] ∧ db'.atStart = none)
    ∨ db'.closings db.log.length = []
  sent : db'.answers = true → .rollback ∈ db'.log.drop db.log.length

/-- **Everything is done**: one `COMMIT` has closed the transaction since `db`. -/
structure Committed (db db' : Database) : Prop where
  closings : db'.closings db.log.length = [.commit]
  atStart : db'.atStart = none

theorem Committed.settled {db db' : Database} (h : Committed db db') :
    db'.settled = db'.tables := by
  unfold Database.settled
  rw [h.atStart]
  rfl

theorem pending_self {db : Database} (h : db.atStart = none) : Pending db db :=
  ⟨by simp [settled, h], closings_self db, Nat.le_refl _, rfl, rfl⟩

/-- One more statement closes a transaction if it is of that kind and takes effect. -/
theorem closings_snoc {db db' : Database} (hl : db'.log = db.log ++ [s])
    (hi : db'.interferences = db.interferences) (hn : n ≤ db.log.length) :
    db'.closings n = db.closings n ++
      if s.closes && db.takesEffect db.log.length then [s] else [] := by
  rw [closings_append hl hi hn]
  congr 1
  show List.filterMap _ [(s, db.log.length)] = _
  cases h : s.closes && db.takesEffect db.log.length <;>
    simp only [List.filterMap_cons, List.filterMap_nil, h] <;> rfl

/-- A statement that comes to nothing decides nothing. -/
theorem Pending.missed (h : Pending u.store v.store) (hm : Missed s v w) :
    Pending u.store w.store := by
  rcases hm with ⟨rfl, -⟩ | ⟨rfl, he⟩
  · exact h
  · have hl : (sent s v).store.log = v.store.log ++ [s] := rfl
    refine ⟨h.settled, ?_, ?_, h.interferences, h.answers⟩
    · rw [closings_snoc hl rfl h.grown, h.closings, he, Bool.and_false]
      rfl
    · rw [hl, List.length_append]
      exact Nat.le_add_right_of_le h.grown

/-- Work inside an open transaction decides nothing. -/
theorem Pending.within (h : Pending u.store v.store) (ho : v.store.atStart = some u.store.tables)
    (hw : Within v w) : Pending u.store w.store := by
  obtain ⟨l, hl, -⟩ := hw.log
  -- what dropping the transaction brings back does not depend on the work in it
  refine ⟨?_, ?_, ?_, hw.interferences.trans h.interferences, hw.answers.trans h.answers⟩
  · simp [Database.settled, hw.atStart, ho]
  · rw [hw.closings_eq h.grown, h.closings]
  · rw [hl, List.length_append]
    exact Nat.le_add_right_of_le h.grown

/-- A statement that is sent next is in the part of the log that is new. -/
theorem Pending.mem_log {db db' : Database} (h : Pending db db') (s : Statement) :
    s ∈ (db'.log ++ [s]).drop db.log.length := by
  rw [List.drop_append_of_le_length h.grown]
  exact List.mem_append_right _ (List.mem_singleton_self s)

/-- A `ROLLBACK` that takes effect undoes everything. -/
theorem Pending.rolledBack {db db' : Database} (h : Pending db db')
    (he : db'.takesEffect db'.log.length = true) : RolledBack db (bounded .rollback db') := by
  refine ⟨h.settled, Or.inl ⟨?_, rfl⟩, fun _ => h.mem_log .rollback⟩
  have hl : (bounded .rollback db').log = db'.log ++ [.rollback] := rfl
  rw [closings_snoc hl rfl h.grown, h.closings, he]
  rfl

/-- A `ROLLBACK` that comes to nothing leaves the transaction to be dropped. -/
theorem Pending.dropped (h : Pending u.store v.store) (hm : Missed .rollback v w) :
    RolledBack u.store w.store := by
  have hp : Pending u.store w.store := h.missed hm
  refine ⟨hp.settled, Or.inr hp.closings, fun ha => ?_⟩
  rcases hm with ⟨rfl, hf⟩ | ⟨rfl, -⟩
  · rw [hf] at ha
    cases ha
  · exact h.mem_log .rollback

theorem Pending.truthful {db db' : Database} (h : Pending db db') (ht : db.Truthful) :
    db'.Truthful := by
  unfold Truthful
  rw [h.interferences]
  exact ht

/-- Sending a `ROLLBACK`, however that ends, undoes everything. -/
theorem Pending.rollback_ensures (h : Pending u.store v.store) (ht : u.store.Truthful) :
    Ensures (execute .rollback) v (fun _ w => RolledBack u.store w.store)
      (fun _ w => Pending u.store w.store ∧ RolledBack u.store w.store) := by
  refine (execute_boundary rfl (h.truthful ht)).mono ?_ ?_
  · rintro _ _ ⟨rfl, he⟩
    exact h.rolledBack he
  · intro _ w hm
    exact ⟨h.missed hm, h.dropped hm⟩

/-- An abandoned transaction is undone. -/
theorem Pending.abandoned (h : Pending u.store v.store) (ht : u.store.Truthful) :
    RolledBack u.store (execute .rollback v).2.store :=
  ((h.rollback_ensures ht).mono (fun _ _ hr => hr) fun _ _ hr => hr.2).ending
    (P := fun _ (w : World Database) => RolledBack u.store w.store)

/-- Rolling back undoes everything, however it ends. -/
theorem Pending.rollBack_ensures (h : Pending u.store v.store) (ht : u.store.Truthful) :
    Ensures (rollBack : Act Database ε Unit) v (fun _ w => RolledBack u.store w.store)
      (fun _ w => RolledBack u.store w.store) := by
  refine Ensures.bind (Q := fun _ w => RolledBack u.store w.store) (attempt_ensures
    (orAbandon_ensures ((h.rollback_ensures ht).mono (fun _ _ hr => hr) ?_))) ?_
  · rintro e t ⟨hp, -⟩
    have hr : RolledBack u.store (execute .rollback t).2.store := hp.abandoned ht
    cases e <;> exact hr
  · rintro (fault | _) w hr
    · exact hr
    · exact hr

/-! ## Actions in a transaction -/

/-- **A transaction is all or nothing**, for every action that stays inside it. -/
theorem inTransaction_ensures {ofQuery : QueryFault → ε} {a : Act Database ε (Except ε α)}
    {Q : α → World Database → Prop} (hidle : v.store.atStart = none)
    (ht : v.store.Truthful)
    (ha : Ensures a { v with store := bounded .start v.store }
      (fun d w => Within { v with store := bounded .start v.store } w
        ∧ ∀ x, d = .ok x → Q x { w with store := bounded .commit w.store })
      (fun _ w => Within { v with store := bounded .start v.store } w)) :
    Ensures (inTransaction ofQuery a) v
      (fun x w => Q x w ∧ Committed v.store w.store)
      (fun _ w => RolledBack v.store w.store) := by
  have hpending : Pending v.store v.store := pending_self hidle
  have hopen : Pending v.store (bounded .start v.store) := by
    have hl : (bounded .start v.store).log = v.store.log ++ [.start] := rfl
    refine ⟨rfl, ?_, ?_, rfl, rfl⟩
    · rw [closings_snoc hl rfl (Nat.le_refl _), closings_self]
      rfl
    · rw [hl, List.length_append]
      exact Nat.le_add_right _ _
  -- what the abandoned part hands on: a fault decided for while the transaction is open, or a
  -- value behind the commit
  refine Ensures.bind (Q := OnResult (fun x w => Q x w ∧ Committed v.store w.store)
    fun _ w => Pending v.store w.store) (orAbandon_ensures ?_) ?_
  · refine Ensures.bind (Q := fun _ w => w = { v with store := bounded .start v.store })
      (mapFault_ensures ((execute_boundary rfl ht).mono ?_ ?_)) ?_
    · rintro _ _ ⟨rfl, -⟩
      rfl
    · intro _ w hm
      exact (hpending.missed hm).abandoned ht
    rintro _ _ rfl
    refine Ensures.bind_mono ha ?_ ?_
    · intro _ w hw
      exact (hopen.within rfl hw).abandoned ht
    rintro d w ⟨hw, hd⟩
    have hp : Pending v.store w.store := hopen.within rfl hw
    cases d with
    | error fault => exact hp
    | ok x =>
      refine Ensures.bind (Q := fun _ t => Q x t ∧ Committed v.store t.store)
        (mapFault_ensures ((execute_boundary rfl (hp.truthful ht)).mono ?_ ?_)) fun _ _ h => h
      · rintro _ _ ⟨rfl, he⟩
        refine ⟨hd x rfl, ?_, rfl⟩
        have hl : (bounded .commit w.store).log = w.store.log ++ [.commit] := rfl
        show (bounded .commit w.store).closings _ = _
        rw [closings_snoc hl rfl hp.grown, hp.closings, he]
        rfl
      · intro _ t hm
        exact (hp.missed hm).abandoned ht
  · rintro (fault | x) w h
    · refine Ensures.bind (h.rollBack_ensures ht) ?_
      intro _ t hr
      exact hr
    · exact h

/-! ## The clock -/

/-- No time passes at a statement, whatever the database does. -/
theorem execute_now (s : Statement) :
    Ensures (execute s) w (fun _ w' => w'.now = w.now) (fun _ w' => w'.now = w.now) := by
  cases hs : s.isBoundary with
  | false => exact (execute_within hs).mono (fun _ _ h => h.now) fun _ _ h => h.1.now
  | true =>
    have hperform : Ensures (perform s) (sent s w) (fun _ w' => w'.now = w.now)
        (fun _ w' => w'.now = w.now) := perform_boundary hs rfl
    exact execute_ensures (fun _ => rfl) (fun _ => rfl) (fun _ _ => rfl) (fun _ => rfl)
      (fun _ _ => hperform) fun _ => hperform

/-- A transaction that returns a value takes as little time as the action in it. -/
theorem inTransaction_now {ofQuery : QueryFault → ε} {a : Act Database ε (Except ε α)}
    (ha : ∀ w, Ensures a w (fun _ w' => w'.now = w.now) (fun _ _ => True)) :
    Ensures (inTransaction ofQuery a) v (fun _ w => w.now = v.now) (fun _ _ => True) := by
  have hsend : ∀ s (w : World Database), Ensures (mapFault ofQuery (execute s)) w
      (fun _ w' => w'.now = w.now) (fun _ _ => True) :=
    fun s w => mapFault_ensures ((execute_now s).mono (fun _ _ h => h) fun _ _ _ => trivial)
  refine Ensures.bind (Q := fun _ w => w.now = v.now) (orAbandon_ensures ?_) ?_
  · refine Ensures.bind (hsend .start v) fun _ w₁ h₁ => ?_
    refine Ensures.bind (ha w₁) ?_
    rintro (fault | x) w₂ h₂
    · exact h₂.trans h₁
    · exact Ensures.bind (hsend .commit w₂) fun _ _ h => h.trans (h₂.trans h₁)
  · rintro (fault | x) w h
    · exact Ensures.bind (Ensures.itself.mono (fun _ _ _ => trivial) fun _ _ _ => trivial)
        fun _ _ _ => trivial
    · exact h

/-! ## Where nothing goes wrong -/

/-- A fair database opens and closes transactions. -/
theorem execute_boundary_fair (hs : s.isBoundary = true) (hw : w.store.Fair) :
    Ensures (execute s) w (fun _ w' => w' = { w with store := bounded s w.store })
      (fun _ _ => False) := by
  refine (execute_boundary hs hw.faithful.truthful).mono (fun _ _ h => h.1) ?_
  rintro _ _ (⟨-, h⟩ | ⟨-, h⟩)
  · rw [hw.answers] at h
    cases h
  · unfold takesEffect at h
    rw [hw.undisturbed] at h
    cases h

theorem bounded_fair {db : Database} (h : db.Fair) : (bounded s db).Fair := by
  cases s <;> exact ⟨h.answers, h.undisturbed⟩

theorem rollBack_fair (hw : w.store.Fair) :
    Ensures (rollBack : Act Database ε Unit) w (fun _ _ => True) (fun _ _ => False) := by
  refine Ensures.bind (Q := fun _ _ => True) (attempt_ensures (orAbandon_ensures
    ((execute_boundary_fair rfl hw).mono (fun _ _ _ => trivial) fun _ _ h => h.elim))) ?_
  rintro (fault | _) _ -
  · trivial
  · trivial

/-- In a fair database, an action that reaches a decision in its transaction ends with it, and one that
fails in its transaction fails. -/
theorem inTransaction_fair {ofQuery : QueryFault → ε} {a : Act Database ε (Except ε α)}
    {D : Except ε α → World Database → Prop} {G : Failure ε → Prop} (hv : v.store.Fair)
    (ha : Ensures a { v with store := bounded .start v.store }
      (fun d w => w.store.Fair ∧ D d w) (fun e _ => G e)) :
    Ensures (inTransaction ofQuery a) v
      (fun x w' => ∃ w, D (.ok x) w ∧ w' = { w with store := bounded .commit w.store })
      (fun e _ => (∃ fault w, D (.error fault) w ∧ e = .refused fault) ∨ G e) := by
  refine Ensures.bind (Q := OnResult
    (fun x w' => ∃ w, D (.ok x) w ∧ w' = { w with store := bounded .commit w.store })
    fun fault w' => w'.store.Fair ∧ ∃ w, D (.error fault) w) (orAbandon_ensures ?_) ?_
  · refine Ensures.bind (mapFault_ensures ((execute_boundary_fair rfl hv).mono (fun _ _ h => h)
      fun _ _ h => h.elim)) ?_
    rintro _ _ rfl
    refine Ensures.bind_mono ha (fun _ _ h => Or.inr h) ?_
    rintro (fault | x) w ⟨hw, hd⟩
    · exact ⟨hw, w, hd⟩
    · refine Ensures.bind (mapFault_ensures ((execute_boundary_fair rfl hw).mono (fun _ _ h => h)
        fun _ _ h => h.elim)) ?_
      rintro _ _ rfl
      exact ⟨w, hd, rfl⟩
  · rintro (fault | x) w h
    · obtain ⟨hw, w₀, hd⟩ := h
      refine Ensures.bind_mono (rollBack_fair hw) (fun _ _ h => h.elim) ?_
      intro _ _ _
      exact Or.inl ⟨fault, w₀, hd, rfl⟩
    · exact h

end Database

end SessionAuth
