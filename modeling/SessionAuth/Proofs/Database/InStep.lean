import SessionAuth.Proofs.Agree
import SessionAuth.Proofs.Database.Transaction

/-!
Two databases in step.

Where a value must not show, two databases are asked to do the same but for this value: what they answer
is the same, and they part in the tables only, as far as they have been told apart. The relation between
the tables is left open. Databases in step are disturbed at the same statements and in the same way, so
that one statement (`execute_inStep`) and one transaction (`inTransaction_inStep`) on one side end as they
do on the other.
-/

set_option autoImplicit false

namespace SessionAuth.Database

variable {ε δ α : Type} {T T' : Tables → Tables → Prop} {w w' : World Database}
  {s s' : Statement}

/-! ## The relation -/

/-- **Databases in step**: the tables are related, and all else is the same, but for the parameters of
the statements so far. What a transaction may be rolled back to is the same and may count as related. -/
structure InStep (T : Tables → Tables → Prop) (db db' : Database) : Prop where
  tables : T db.tables db'.tables
  atStart : db.atStart = db'.atStart
  start : ∀ t, db.atStart = some t → T t t
  log : db.log.map Statement.text = db'.log.map Statement.text
  interferences : db.interferences = db'.interferences
  answers : db.answers = db'.answers

/-- The tables that a database may come to show again: those that there are, and those that an open
transaction has started from. -/
def versions (db : Database) : List Tables := db.tables :: db.atStart.toList

theorem InStep.refl {db : Database} (h : ∀ t ∈ db.versions, T t t) : InStep T db db := by
  refine ⟨h _ List.mem_cons_self, rfl, fun t ht => h t ?_, rfl, rfl, rfl⟩
  rw [versions, ht]
  exact List.mem_cons_of_mem _ (List.mem_singleton_self t)

theorem InStep.mono {db db' : Database} (h : InStep T db db') (hT : ∀ t t', T t t' → T' t t') :
    InStep T' db db' :=
  ⟨hT _ _ h.tables, h.atStart, fun t ht => hT t t (h.start t ht), h.log, h.interferences, h.answers⟩

theorem InStep.withTables {db db' : Database} (h : InStep T db db') {t t' : Tables} (ht : T t t') :
    InStep T { db with tables := t } { db' with tables := t' } :=
  ⟨ht, h.atStart, h.start, h.log, h.interferences, h.answers⟩

theorem InStep.length_log {db db' : Database} (h : InStep T db db') :
    db.log.length = db'.log.length := by
  have hlog := congrArg List.length h.log
  rwa [List.length_map, List.length_map] at hlog

theorem sent_inStep (htext : s.text = s'.text) (h : World.InStep (InStep T) w w') :
    World.InStep (InStep T) (sent s w) (sent s' w') := by
  refine h.withStore ⟨h.store.tables, h.store.atStart, h.store.start, ?_, h.store.interferences,
    h.store.answers⟩
  rw [List.map_append, List.map_append, h.store.log]
  exact congrArg (fun text => w'.store.log.map Statement.text ++ [text]) htext

/-! ## Statements -/

/-- **What comes of a statement on both sides**: the same outcome and related tables, or the same fault. -/
inductive RunsAlike (T : Tables → Tables → Prop) :
    Except ServerFault (Outcome × Tables) → Except ServerFault (Outcome × Tables) → Prop where
  | ok {o : Outcome} {t t' : Tables} (h : T t t') : RunsAlike T (.ok (o, t)) (.ok (o, t'))
  | error {fault : ServerFault} : RunsAlike T (.error fault) (.error fault)

theorem perform_inStep (hs : s.isBoundary = false) (hs' : s'.isBoundary = false)
    (hrun : ∀ t t' now, T t t' → RunsAlike T' (t.run now s) (t'.run now s'))
    (hT : ∀ t t', T t t' → T' t t') (h : World.InStep (InStep T) w w') :
    Agree (World.InStep (InStep T')) Eq Eq (perform s) (perform s') w w' := by
  rw [perform_eq hs, perform_eq hs']
  refine .get_bind (.get_bind ?_)
  rw [← h.now]
  have halike := hrun _ _ w.now.floorMicros h.store.tables
  generalize w.store.tables.run w.now.floorMicros s = r at halike
  generalize w'.store.tables.run w.now.floorMicros s' = r' at halike
  cases halike with
  | ok ht => exact .modify_bind (.pure rfl (h.withStore ((h.store.mono hT).withTables ht)))
  | error => exact .throw rfl (h.mono fun _ _ h => h.mono hT)

/-- A statement is disturbed in the same way on both sides, so that it is enough to carry it out. -/
theorem execute_of_perform (htext : s.text = s'.text) (hT : ∀ t t', T t t' → T' t t')
    (hperform : ∀ v v', World.InStep (InStep T) v v' →
      Agree (World.InStep (InStep T')) Eq Eq (perform s) (perform s') v v')
    (h : World.InStep (InStep T) w w') :
    Agree (World.InStep (InStep T')) Eq Eq (execute s) (execute s') w w' := by
  have hweak : ∀ {v v'}, World.InStep (InStep T) v v' → World.InStep (InStep T') v v' :=
    fun h => h.mono fun _ _ h => h.mono hT
  have hsent := sent_inStep htext h
  unfold execute
  apply Agree.get_bind
  rw [← h.store.answers]
  cases w.store.answers with
  | false => exact .throw rfl (hweak h)
  | true =>
    have hlookup : w.store.interferences.lookup w.store.log.length
        = w'.store.interferences.lookup w'.store.log.length := by
      rw [h.store.interferences, h.store.length_log]
    refine .modify_bind ?_
    dsimp only
    rw [← hlookup]
    rcases w.store.interferences.lookup w.store.log.length with
      _ | fault | _ | _ | cells
    · exact hperform _ _ hsent
    · exact .throw rfl (hweak hsent)
    · exact .throw rfl (hweak hsent)
    · exact .pure rfl (hweak hsent)
    · show Agree _ _ _ (perform s >>= fun o => pure (o.patch cells))
        (perform s' >>= fun o => pure (o.patch cells)) _ _
      refine (hperform _ _ hsent).bind ?_
      rintro o _ v v' rfl hv
      exact .pure rfl hv

/-- **One statement on both sides.** -/
theorem execute_inStep (hs : s.isBoundary = false) (hs' : s'.isBoundary = false)
    (htext : s.text = s'.text) (hT : ∀ t t', T t t' → T' t t')
    (hrun : ∀ t t' now, T t t' → RunsAlike T' (t.run now s) (t'.run now s'))
    (h : World.InStep (InStep T) w w') :
    Agree (World.InStep (InStep T')) Eq Eq (execute s) (execute s') w w' :=
  execute_of_perform htext hT (fun _ _ hv => perform_inStep hs hs' hrun hT hv) h

/-- One selection on both sides. -/
theorem fetch_inStep (hs : s.isBoundary = false)
    (hrun : ∀ t t' now, T t t' → RunsAlike T (t.run now s) (t'.run now s))
    (h : World.InStep (InStep T) w w') :
    Agree (World.InStep (InStep T)) Eq Eq (fetch s) (fetch s) w w' := by
  refine (execute_inStep hs hs rfl (fun _ _ h => h) hrun h).bind ?_
  rintro o _ v v' rfl hv
  exact .pure rfl hv

/-- A transaction is opened on tables that are the same. -/
theorem start_inStep (hsame : ∀ t t', T t t' → t = t') (h : World.InStep (InStep T) w w') :
    Agree (World.InStep (InStep T)) Eq Eq (execute .start) (execute .start) w w' := by
  refine execute_of_perform rfl (fun _ _ h => h) (fun v v' hv => ?_) h
  have heq : v.store.tables = v'.store.tables := hsame _ _ hv.store.tables
  refine .get_bind (.modify_bind (.pure rfl (hv.withStore ⟨hv.store.tables, congrArg some heq, ?_,
    hv.store.log, hv.store.interferences, hv.store.answers⟩)))
  rintro t ht
  obtain rfl := Option.some.inj ht
  exact heq.symm ▸ hv.store.tables

theorem commit_inStep (h : World.InStep (InStep T) w w') :
    Agree (World.InStep (InStep T)) Eq Eq (execute .commit) (execute .commit) w w' := by
  refine execute_of_perform rfl (fun _ _ h => h) (fun v v' hv => ?_) h
  exact .get_bind (.modify_bind (.pure rfl (hv.withStore ⟨hv.store.tables, rfl, nofun, hv.store.log,
    hv.store.interferences, hv.store.answers⟩)))

/-- Where a transaction is rolled back, the tables are the same again. -/
theorem rollback_inStep (h : World.InStep (InStep T) w w') :
    Agree (World.InStep (InStep T)) Eq Eq (execute .rollback) (execute .rollback) w w' := by
  refine execute_of_perform rfl (fun _ _ h => h) (fun v v' hv => ?_) h
  refine .get_bind (.modify_bind (.pure rfl (hv.withStore ⟨?_, rfl, nofun, hv.store.log,
    hv.store.interferences, hv.store.answers⟩)))
  show T (v.store.atStart.getD _) (v'.store.atStart.getD _)
  rw [← hv.store.atStart]
  cases ht : v.store.atStart with
  | none => exact hv.store.tables
  | some t => exact hv.store.start t ht

/-! ## Faults in other words -/

section Faults

variable {R : World Database → World Database → Prop} {V : α → α → Prop}

theorem mapFault_agree {f : ε → δ} {a a' : Act Database ε α} (h : Agree R V Eq a a' w w') :
    Agree R V Eq (mapFault f a) (mapFault f a') w w' := by
  unfold Agree mapFault at *
  generalize a w = r at h
  generalize a' w' = r' at h
  cases h with
  | value hx ht => exact .value hx ht
  | @failure e e' t t' he ht =>
    obtain rfl : e = e' := he
    cases e with
    | refused fault => exact .failure rfl ht
    | stalled => exact .failure rfl ht
    | panicked => exact .failure rfl ht

theorem attempt_agree {a a' : Act Database ε α} (h : Agree R Eq Eq a a' w w') :
    Agree R Eq Eq (attempt a : Act Database δ _) (attempt a' : Act Database δ _) w w' := by
  unfold Agree attempt at *
  generalize a w = r at h
  generalize a' w' = r' at h
  cases h with
  | @value x x' t t' hx ht =>
    obtain rfl : x = x' := hx
    exact .value rfl ht
  | @failure e e' t t' he ht =>
    obtain rfl : e = e' := he
    cases e with
    | refused fault => exact .value rfl ht
    | stalled => exact .failure rfl ht
    | panicked => exact .failure rfl ht

end Faults

/-! ## Transactions -/

section Transactions

variable {T₀ : Tables → Tables → Prop}

theorem orAbandon_inStep {a a' : Act Database ε α}
    (h : Agree (World.InStep (InStep T)) Eq Eq a a' w w') :
    Agree (World.InStep (InStep T)) Eq Eq (orAbandon a) (orAbandon a') w w' := by
  unfold Agree at *
  rw [orAbandon_apply, orAbandon_apply]
  generalize a w = r at h
  generalize a' w' = r' at h
  cases h with
  | value hx ht => exact .value hx ht
  | failure he ht => exact .failure he (rollback_inStep ht).same.2

theorem rollBack_inStep (h : World.InStep (InStep T) w w') :
    Agree (World.InStep (InStep T)) Eq Eq (rollBack : Act Database ε Unit) rollBack w w' := by
  refine (attempt_agree (orAbandon_inStep (rollback_inStep h))).bind ?_
  rintro (fault | o) _ v v' rfl hv
  · exact Act.report_inStep _ hv
  · exact .pure rfl hv

/-- **One transaction on both sides.** It is opened on tables that are the same, and what is done in it may
tell them apart. -/
theorem inTransaction_inStep {ofQuery : QueryFault → ε} {a a' : Act Database ε (Except ε α)}
    (hsame : ∀ t t', T₀ t t' → t = t') (hT : ∀ t t', T₀ t t' → T t t')
    (ha : ∀ v v', World.InStep (InStep T₀) v v' →
      Agree (World.InStep (InStep T)) Eq Eq a a' v v')
    (h : World.InStep (InStep T₀) w w') :
    Agree (World.InStep (InStep T)) Eq Eq (inTransaction ofQuery a) (inTransaction ofQuery a')
      w w' := by
  have hweak : ∀ {v v'}, World.InStep (InStep T₀) v v' → World.InStep (InStep T) v v' :=
    fun h => h.mono fun _ _ h => h.mono hT
  refine (orAbandon_inStep ?_).bind ?_
  · refine (mapFault_agree (start_inStep hsame h)).bind_mono (fun _ _ h => hweak h) ?_
    rintro o _ v v' rfl hv
    refine (ha v v' hv).bind ?_
    rintro decision _ u u' rfl hu
    cases decision with
    | error fault => exact .pure rfl hu
    | ok x =>
      refine (mapFault_agree (commit_inStep hu)).bind ?_
      rintro o _ t t' rfl ht
      exact .pure rfl ht
  rintro (fault | x) _ v v' rfl hv
  · refine (rollBack_inStep hv).bind ?_
    rintro _ _ u u' rfl hu
    exact .throw rfl hu
  · exact .pure rfl hv

end Transactions

end SessionAuth.Database
