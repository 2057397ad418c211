import SessionAuth.Database.Server
import SessionAuth.Proofs.Ensures
import SessionAuth.Proofs.Keyed

/-!
What one statement does to the database, however it is disturbed.

`execute_ensures` lists the five ways in which the execution of a statement can go: it is not
answered, it fails, it is skipped, it is carried out, or it is carried out and its rows come back
altered. All that is said about statements is derived from this list and from `perform_ensures`, so
that the definition of execution is opened here only.
-/

set_option autoImplicit false

namespace SessionAuth.Database

variable {w : World Database} {s : Statement}

/-! ## Statements inside a transaction -/

/-- Whether a statement opens or closes a transaction. -/
def Statement.isBoundary : Statement → Bool
  | .start | .commit | .rollback => true
  | _ => false

/-- The world in which a statement has been sent, before anything comes of it. -/
def sent (s : Statement) (w : World Database) : World Database :=
  { w with store := { w.store with log := w.store.log ++ [s] } }

/-- All statements but the three that open and close transactions share one branch. -/
theorem perform_eq (hs : s.isBoundary = false) :
    perform s = (do
      let db ← Act.store
      match db.tables.run (← Act.now).floorMicros s with
      | .error fault => Act.refuse (.server fault)
      | .ok (outcome, tables) =>
        change fun db => { db with tables }
        return outcome) := by
  cases s <;> first | rfl | simp [Statement.isBoundary] at hs

/-- A statement inside a transaction is carried out on the tables, or refused without effect. -/
theorem perform_ensures (hs : s.isBoundary = false) :
    Ensures (perform s) w
      (fun o w' => ∃ t, w.store.tables.run w.now.floorMicros s = .ok (o, t)
        ∧ w' = { w with store := { w.store with tables := t } })
      (fun e w' => w' = w ∧ ∃ fault, w.store.tables.run w.now.floorMicros s = .error fault
        ∧ e = .refused (.server fault)) := by
  rw [perform_eq hs]
  refine Act.store_bind (Act.now_bind ?_)
  split
  · exact Act.refuse_ensures ⟨rfl, _, ‹_›, rfl⟩
  · rename_i o t h
    exact ⟨t, h, rfl⟩

/-- **The ways of a statement.** What is ensured in each of them is ensured by its execution. -/
theorem execute_ensures {Q : Outcome → World Database → Prop}
    {F : Failure QueryFault → World Database → Prop}
    (hsilent : w.store.answers = false → F .stalled w)
    (hstall : w.store.interferences.lookup w.store.log.length = some .stall →
      F .stalled (sent s w))
    (hfail : ∀ fault, w.store.interferences.lookup w.store.log.length = some (.fail fault) →
      F (.refused (.server fault)) (sent s w))
    (hignore : w.store.interferences.lookup w.store.log.length = some .ignore →
      Q .nothing (sent s w))
    (hpatch : ∀ cells, w.store.interferences.lookup w.store.log.length = some (.patch cells) →
      Ensures (perform s) (sent s w) (fun o => Q (o.patch cells)) F)
    (hnone : w.store.interferences.lookup w.store.log.length = none →
      Ensures (perform s) (sent s w) Q F) :
    Ensures (execute s) w Q F := by
  unfold execute
  refine Act.store_bind ?_
  cases hanswers : w.store.answers with
  | false => exact hsilent hanswers
  | true =>
    refine Act.modifyStore_bind ?_
    split
    · exact hnone ‹_›
    · exact hfail _ ‹_›
    · exact hstall ‹_›
    · exact hignore ‹_›
    · exact Ensures.bind (hpatch _ ‹_›) fun _ _ h => h

/-! ## How the database behaves

Skipping a statement and altering its rows is nothing that a database does; these two ways serve to
reach the branches that guard against it. A *truthful* database skips nothing, and a *faithful* one
does nothing worse than to fail at statements or to leave them unanswered. -/

/-- No statement is skipped. -/
def Truthful (db : Database) : Prop := ∀ p ∈ db.interferences, p.2 ≠ .ignore

/-- A statement that is disturbed fails or is not answered. -/
def Faithful (db : Database) : Prop :=
  ∀ p ∈ db.interferences, p.2 = .stall ∨ ∃ fault, p.2 = .fail fault

theorem Faithful.truthful {db : Database} (h : db.Faithful) : db.Truthful := by
  intro p hp heq
  rcases h p hp with hs | ⟨fault, hf⟩
  · rw [hs] at heq
    cases heq
  · rw [hf] at heq
    cases heq

/-! ## Statements that stay inside a transaction -/

/-- **What a statement inside a transaction leaves alone**: the clock, the transaction and the ways of
the database. The log grows, by statements of this kind. -/
structure Within (v w : World Database) : Prop where
  now : w.now = v.now
  atStart : w.store.atStart = v.store.atStart
  interferences : w.store.interferences = v.store.interferences
  answers : w.store.answers = v.store.answers
  log : ∃ l, w.store.log = v.store.log ++ l ∧ ∀ s ∈ l, s.isBoundary = false

theorem Within.refl (w : World Database) : Within w w :=
  ⟨rfl, rfl, rfl, rfl, [], by simp⟩

theorem Within.trans {u v w : World Database} (h : Within u v) (h' : Within v w) : Within u w := by
  obtain ⟨l, hl, hb⟩ := h.log
  obtain ⟨l', hl', hb'⟩ := h'.log
  refine ⟨h'.now.trans h.now, h'.atStart.trans h.atStart, h'.interferences.trans h.interferences,
    h'.answers.trans h.answers, l ++ l', by rw [hl', hl, List.append_assoc], fun s hs => ?_⟩
  rcases List.mem_append.mp hs with hs | hs
  · exact hb s hs
  · exact hb' s hs

theorem within_sent (hs : s.isBoundary = false) : Within w (sent s w) :=
  ⟨rfl, rfl, rfl, rfl, [s], rfl, by simpa using hs⟩

/-- New tables are as good as the old ones for all that a statement leaves alone. -/
theorem Within.withTables {v w : World Database} (h : Within v w) (t : Tables) :
    Within v { w with store := { w.store with tables := t } } :=
  ⟨h.now, h.atStart, h.interferences, h.answers, h.log⟩

theorem Within.faithful {v w : World Database} (h : Within v w) (hv : v.store.Faithful) :
    w.store.Faithful := by
  unfold Faithful
  rw [h.interferences]
  exact hv

/-- However a statement inside a transaction ends, it stays there; where it fails, it has changed
nothing. -/
theorem execute_within (hs : s.isBoundary = false) :
    Ensures (execute s) w (fun _ w' => Within w w')
      (fun _ w' => Within w w' ∧ w'.store.tables = w.store.tables) := by
  have hsent : Within w (sent s w) := within_sent hs
  -- a statement that is carried out and one whose rows are altered afterwards meet here
  have hperform : Ensures (perform s) (sent s w) (fun _ w' => Within w w')
      (fun _ w' => Within w w' ∧ w'.store.tables = w.store.tables) := by
    refine (perform_ensures hs).mono ?_ ?_
    · rintro o _ ⟨t, -, rfl⟩
      exact hsent.withTables t
    · rintro _ _ ⟨rfl, -⟩
      exact ⟨hsent, rfl⟩
  exact execute_ensures (fun _ => ⟨Within.refl w, rfl⟩) (fun _ => ⟨hsent, rfl⟩)
    (fun _ _ => ⟨hsent, rfl⟩) (fun _ => hsent) (fun _ _ => hperform) (fun _ => hperform)

/-- No statement draws from the random source. -/
theorem execute_random (hs : s.isBoundary = false) :
    Ensures (execute s) w (fun _ w' => w'.random = w.random) (fun _ w' => w'.random = w.random) := by
  have hperform : Ensures (perform s) (sent s w) (fun _ w' => w'.random = w.random)
      (fun _ w' => w'.random = w.random) := by
    refine (perform_ensures hs).mono ?_ ?_
    · rintro _ _ ⟨_, -, rfl⟩
      rfl
    · rintro _ _ ⟨rfl, -⟩
      rfl
  exact execute_ensures (fun _ => rfl) (fun _ => rfl) (fun _ _ => rfl) (fun _ => rfl)
    (fun _ _ => hperform) (fun _ => hperform)

/-- A faithful database returns from a statement with what its tables say. -/
theorem execute_run (hs : s.isBoundary = false) (hw : w.store.Faithful) :
    Ensures (execute s) w
      (fun o w' => w.store.tables.run w.now.floorMicros s = .ok (o, w'.store.tables))
      (fun _ _ => True) := by
  refine execute_ensures (fun _ => trivial) (fun _ => trivial) (fun _ _ => trivial) ?_ ?_ ?_
  · intro h
    exact absurd rfl (hw.truthful _ (mem_of_lookup h))
  · intro cells h
    rcases hw _ (mem_of_lookup h) with hc | ⟨_, hc⟩ <;> cases hc
  · intro _
    refine (perform_ensures hs).mono ?_ (fun _ _ _ => trivial)
    rintro o _ ⟨t, ht, rfl⟩
    exact ht

/-! ## Selections -/

theorem fetch_within (hs : s.isBoundary = false) :
    Ensures (fetch s) w (fun _ w' => Within w w') (fun _ w' => Within w w') := by
  refine Ensures.bind_mono (execute_within hs) (fun _ _ h => h.1) ?_
  intro _ _ h
  exact h

theorem fetch_random (hs : s.isBoundary = false) :
    Ensures (fetch s) w (fun _ w' => w'.random = w.random) (fun _ w' => w'.random = w.random) := by
  refine Ensures.bind (execute_random hs) ?_
  intro _ _ h
  exact h

/-- The row that a selection returns is the first one that is selected, and the tables are left
alone. -/
theorem fetch_ensures {rows : List Row} (hs : s.isBoundary = false) (hw : w.store.Faithful)
    (hrun : w.store.tables.run w.now.floorMicros s = .ok (⟨rows, 0⟩, w.store.tables)) :
    Ensures (fetch s) w
      (fun r w' => Within w w' ∧ w'.store.tables = w.store.tables ∧ r = rows.head?)
      (fun _ w' => Within w w' ∧ w'.store.tables = w.store.tables) := by
  refine Ensures.bind_mono ((execute_within hs).and (execute_run hs hw)) (fun _ _ h => h.1) ?_
  rintro o w' ⟨hin, h⟩
  rw [hrun, Except.ok.injEq, Prod.mk.injEq] at h
  obtain ⟨rfl, ht⟩ := h
  exact ⟨hin, ht.symm, rfl⟩

/-- The first row of a selection is the first one that passes the test. -/
theorem head?_select {α : Type} (rows : List α) (test : α → Bool) (cells : α → Row) :
    ((rows.filter test).map cells).head? = (rows.find? test).map cells := by
  rw [List.head?_map, List.head?_filter]

/-- **A statement that only selects**: whatever it is carried out on, it changes nothing. -/
def Statement.Selects (s : Statement) : Prop :=
  s.isBoundary = false
    ∧ ∀ (t t' : Tables) (now : Instant) (o : Outcome), t.run now s = .ok (o, t') → t' = t

/-- A selection leaves the tables alone, whatever the database does to it. -/
theorem fetch_selects (hs : s.Selects) :
    Ensures (fetch s) w (fun _ w' => Within w w' ∧ w'.store.tables = w.store.tables)
      (fun _ w' => Within w w' ∧ w'.store.tables = w.store.tables) := by
  have hsent : Within w (sent s w) := within_sent hs.1
  have hperform : Ensures (perform s) (sent s w)
      (fun _ w' => Within w w' ∧ w'.store.tables = w.store.tables)
      (fun _ w' => Within w w' ∧ w'.store.tables = w.store.tables) := by
    refine (perform_ensures hs.1).mono ?_ ?_
    · rintro o _ ⟨t, hrun, rfl⟩
      exact ⟨hsent.withTables t, hs.2 _ _ _ _ hrun⟩
    · rintro _ _ ⟨rfl, -⟩
      exact ⟨hsent, rfl⟩
  refine Ensures.bind (execute_ensures (fun _ => ⟨Within.refl w, rfl⟩) (fun _ => ⟨hsent, rfl⟩)
    (fun _ _ => ⟨hsent, rfl⟩) (fun _ => ⟨hsent, rfl⟩) (fun _ _ => hperform) fun _ => hperform) ?_
  intro _ _ h
  exact h

/-! ## Where nothing goes wrong

A faithful database may still refuse what it is asked to do. A *fair* one does so for one reason only,
which is that its tables do not admit it. -/

/-- It answers, and no statement is disturbed. -/
structure Fair (db : Database) : Prop where
  answers : db.answers = true
  undisturbed : db.interferences = []

theorem Fair.faithful {db : Database} (h : db.Fair) : db.Faithful := by
  intro p hp
  rw [h.undisturbed] at hp
  cases hp

theorem Within.fair {v w : World Database} (h : Within v w) (hv : v.store.Fair) : w.store.Fair :=
  ⟨h.answers.trans hv.answers, h.interferences.trans hv.undisturbed⟩

theorem execute_fair_ensures {Q : Outcome → World Database → Prop}
    {F : Failure QueryFault → World Database → Prop} (hw : w.store.Fair)
    (h : Ensures (perform s) (sent s w) Q F) : Ensures (execute s) w Q F := by
  -- no interference is found, so that only the undisturbed way is left
  have hnone : ∀ {x}, w.store.interferences.lookup w.store.log.length ≠ some x := by
    intro x
    rw [hw.undisturbed]
    exact nofun
  refine execute_ensures (fun ha => ?_) (fun hi => absurd hi hnone) (fun _ hi => absurd hi hnone)
    (fun hi => absurd hi hnone) (fun _ hi => absurd hi hnone) (fun _ => h)
  rw [hw.answers] at ha
  cases ha

/-- A fair database does what its tables say, and refuses what they refuse. -/
theorem execute_fair (hs : s.isBoundary = false) (hw : w.store.Fair) :
    Ensures (execute s) w
      (fun o w' => Within w w'
        ∧ w.store.tables.run w.now.floorMicros s = .ok (o, w'.store.tables))
      (fun e w' => Within w w' ∧ w'.store.tables = w.store.tables
        ∧ ∃ fault, w.store.tables.run w.now.floorMicros s = .error fault
          ∧ e = .refused (.server fault)) := by
  have hsent : Within w (sent s w) := within_sent hs
  refine execute_fair_ensures hw ((perform_ensures hs).mono ?_ ?_)
  · rintro o _ ⟨t, ht, rfl⟩
    exact ⟨hsent.withTables t, ht⟩
  · rintro e _ ⟨rfl, he⟩
    exact ⟨hsent, rfl, he⟩

/-- A selection is carried out. -/
theorem fetch_fair {rows : List Row} (hs : s.isBoundary = false) (hw : w.store.Fair)
    (hrun : w.store.tables.run w.now.floorMicros s = .ok (⟨rows, 0⟩, w.store.tables)) :
    Ensures (fetch s) w
      (fun r w' => Within w w' ∧ w'.store.tables = w.store.tables ∧ r = rows.head?)
      (fun _ _ => False) := by
  refine Ensures.bind_mono (execute_fair hs hw) ?_ ?_
  · rintro _ _ ⟨-, -, fault, hf, -⟩
    rw [hrun] at hf
    cases hf
  · rintro o w' ⟨hin, h⟩
    rw [hrun, Except.ok.injEq, Prod.mk.injEq] at h
    obtain ⟨rfl, ht⟩ := h
    exact ⟨hin, ht.symm, rfl⟩

end SessionAuth.Database
