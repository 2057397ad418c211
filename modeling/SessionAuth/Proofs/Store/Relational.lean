import SessionAuth.Proofs.Database.Tables
import SessionAuth.Proofs.Database.Transaction
import SessionAuth.Store.Relational

/-!
What the operations of the relational store do to the tables.

Two statements stand beside each other for every operation that runs inside a transaction. One of them,
named `_within`, says that it stays there whatever the database does. The other one, named
`_ensures`, says what a faithful database has in its tables afterwards, and that a failure leaves
them alone.
-/

set_option autoImplicit false

namespace SessionAuth.Relational

open Database (Cell Row QueryFault NewSession UserRow SessionRow Tables Within Committed RolledBack)

variable {w : World Database} {s : Database.Statement}

/-! ## Single statements -/

theorem execute_within (hs : s.isBoundary = false) :
    Ensures (execute s) w (fun _ w' => Within w w')
      (fun _ w' => Within w w' ∧ w'.store.tables = w.store.tables) :=
  Database.mapFault_ensures (Database.execute_within hs)

theorem execute_ensures (hs : s.isBoundary = false) (hw : w.store.Faithful) :
    Ensures (execute s) w
      (fun o w' => Within w w'
        ∧ w.store.tables.run w.now.floorMicros s = .ok (o, w'.store.tables))
      (fun _ w' => Within w w' ∧ w'.store.tables = w.store.tables) := by
  refine Database.mapFault_ensures
    (((Database.execute_within hs).and (Database.execute_run hs hw)).mono ?_ ?_)
  · intro _ _ h
    exact h
  · intro _ _ h
    exact h.1

/-- A statement on sessions that the tables admit is carried out by a fair database. -/
theorem execute_fair {o : Database.Outcome} {t : Tables} (hs : s.isBoundary = false)
    (hw : w.store.Fair) (hrun : w.store.tables.run w.now.floorMicros s = .ok (o, t)) :
    Ensures (execute s) w (fun o' w' => Within w w' ∧ o' = o ∧ w'.store.tables = t)
      (fun _ _ => False) := by
  refine Database.mapFault_ensures ((Database.execute_fair hs hw).mono ?_ ?_)
  · rintro o' w' ⟨hin, h⟩
    rw [hrun, Except.ok.injEq, Prod.mk.injEq] at h
    exact ⟨hin, h.1.symm, h.2.symm⟩
  · rintro _ _ ⟨-, -, fault, hf, -⟩
    rw [hrun] at hf
    cases hf

theorem execute_random (hs : s.isBoundary = false) :
    Ensures (execute s) w (fun _ w' => w'.random = w.random)
      (fun _ w' => w'.random = w.random) :=
  Database.mapFault_ensures (Database.execute_random hs)

theorem fetch_random (hs : s.isBoundary = false) :
    Ensures (fetch s) w (fun _ w' => w'.random = w.random) (fun _ w' => w'.random = w.random) :=
  Database.mapFault_ensures (Database.fetch_random hs)

/-! ## Users -/

/-- What comes of looking for a user: nobody, where there is no row, and otherwise whoever can be
read from the row. -/
inductive Loads : Option UserRow → Option User → Prop where
  | nobody : Loads none none
  | user {row : UserRow} {u : User} (h : readUser row.cells = .ok u) : Loads (some row) (some u)

/-- The user in a row: all that can be wrong with the row is its address. -/
def loadRow (row : UserRow) : Except Email.Flaw User :=
  (Email.parse row.email).map fun email =>
    { id := row.id
      email
      passwordHash := row.passwordHash
      emailVerifiedAt := row.emailVerifiedAt
      createdAt := row.createdAt
      updatedAt := row.updatedAt }

theorem readUser_cells (row : UserRow) :
    readUser row.cells = (loadRow row).mapError .invalidEmail := by
  obtain ⟨id, email, passwordHash, verified | verified, created, updated⟩ := row
  all_goals
    -- the cells are as the columns are typed, so that only the address is left to be read
    show (Email.parse email).mapError UserFault.invalidEmail >>= _ = _
    unfold loadRow
    cases Email.parse email <;> rfl

/-- A user has the identifier of the row. -/
theorem loadRow_id {row : UserRow} {u : User} (h : loadRow row = .ok u) : u.id = row.id := by
  unfold loadRow at h
  cases hemail : Email.parse row.email with
  | error flaw =>
    rw [hemail] at h
    cases h
  | ok email =>
    rw [hemail] at h
    rw [← Except.ok.inj h]

theorem findUser_within (hs : s.isBoundary = false) :
    Ensures (findUser s) w (fun _ w' => Within w w') (fun _ w' => Within w w') := by
  refine Ensures.bind (Database.mapFault_ensures (Database.fetch_within hs)) ?_
  rintro (_ | row) w' h
  · exact h
  · exact Ensures.bind (Act.ofExcept_ensures (fun _ _ => h) fun _ _ => h) fun _ _ h => h

/-- Looking for a user changes nothing, whatever the database does to it. -/
theorem findUser_selects (hs : s.Selects) :
    Ensures (findUser s) w (fun _ w' => Within w w' ∧ w'.store.tables = w.store.tables)
      (fun _ w' => Within w w' ∧ w'.store.tables = w.store.tables) := by
  refine Ensures.bind (Database.mapFault_ensures (Database.fetch_selects hs)) ?_
  rintro (_ | row) w' h
  · exact h
  · exact Ensures.bind (Act.ofExcept_ensures (fun _ _ => h) fun _ _ => h) fun _ _ h => h

/-- A user is read from the row that passes the test, and the tables are left alone. -/
theorem findUser_ensures {test : UserRow → Bool} (hs : s.isBoundary = false)
    (hw : w.store.Faithful)
    (hrun : w.store.tables.run w.now.floorMicros s
      = .ok (Tables.select w.store.tables.users test UserRow.cells, w.store.tables)) :
    Ensures (findUser s) w
      (fun r w' => Within w w' ∧ w'.store.tables = w.store.tables
        ∧ Loads (w.store.tables.users.find? test) r)
      (fun _ w' => Within w w' ∧ w'.store.tables = w.store.tables) := by
  refine Ensures.bind (Database.mapFault_ensures (Database.fetch_ensures hs hw hrun)) ?_
  rintro r w' ⟨hin, ht, rfl⟩
  rw [Database.head?_select]
  cases w.store.tables.users.find? test with
  | none => exact ⟨hin, ht, .nobody⟩
  | some row =>
    refine Ensures.bind (Q := fun u w' => Within w w' ∧ w'.store.tables = w.store.tables
      ∧ readUser row.cells = .ok u) (Act.ofExcept_ensures ?_ fun _ _ => ⟨hin, ht⟩) ?_
    · intro u hu
      exact ⟨hin, ht, hu⟩
    · rintro u w' ⟨hin, ht, hu⟩
      exact ⟨hin, ht, .user hu⟩

/-- In a fair database, a user is looked for and found, or is found with an address that is none. -/
theorem findUser_fair {test : UserRow → Bool} (hs : s.isBoundary = false) (hw : w.store.Fair)
    (hrun : w.store.tables.run w.now.floorMicros s
      = .ok (Tables.select w.store.tables.users test UserRow.cells, w.store.tables)) :
    Ensures (findUser s) w
      (fun r w' => Within w w' ∧ w'.store.tables = w.store.tables
        ∧ match w.store.tables.users.find? test with
          | none => r = none
          | some row => ∃ u, loadRow row = .ok u ∧ r = some u)
      (fun e _ => ∃ row flaw, w.store.tables.users.find? test = some row
        ∧ loadRow row = .error flaw ∧ e = .refused (.invalidEmail flaw)) := by
  refine Ensures.bind (Q := fun r w' => Within w w' ∧ w'.store.tables = w.store.tables
      ∧ r = (w.store.tables.users.find? test).map UserRow.cells)
    (Database.mapFault_ensures ((Database.fetch_fair hs hw hrun).mono ?_ fun _ _ h => h.elim)) ?_
  · rintro _ w' ⟨hin, ht, rfl⟩
    exact ⟨hin, ht, Database.head?_select _ _ _⟩
  rintro _ w' ⟨hin, ht, rfl⟩
  cases w.store.tables.users.find? test with
  | none => exact ⟨hin, ht, rfl⟩
  | some row =>
    show Ensures (Act.ofExcept (readUser row.cells) >>= _) _ _ _
    rw [readUser_cells]
    cases hrow : loadRow row with
    | ok u => exact ⟨hin, ht, u, hrow, rfl⟩
    | error flaw => exact ⟨row, flaw, rfl, hrow, rfl⟩

theorem findUser_random (hs : s.isBoundary = false) :
    Ensures (findUser s) w (fun _ w' => w'.random = w.random)
      (fun _ w' => w'.random = w.random) := by
  refine Ensures.bind (Database.mapFault_ensures (Database.fetch_random hs)) ?_
  rintro (_ | row) w' h
  · exact h
  · exact Ensures.bind (Act.ofExcept_ensures (fun _ _ => h) fun _ _ => h) fun _ _ h => h

/-- A user is looked up by the address. -/
theorem findUserByEmail_ensures {email : Email} (hw : w.store.Faithful) :
    Ensures (findUserByEmail email) w
      (fun r w' => Within w w' ∧ w'.store.tables = w.store.tables
        ∧ Loads (w.store.tables.users.find? (·.email == email.text)) r)
      (fun _ w' => Within w w' ∧ w'.store.tables = w.store.tables) :=
  findUser_ensures rfl hw rfl

/-- A user is created by inserting the row, or not at all. -/
theorem createUser_ensures (u : User) (hw : w.store.Faithful) :
    Ensures (createUser u) w
      (fun v w' => v = u ∧ Within w w'
        ∧ w.store.tables.insertUser (.ofUser u) = .ok w'.store.tables)
      (fun _ w' => Within w w' ∧ w'.store.tables = w.store.tables) := by
  refine Ensures.bind (Q := fun r w' => Within w w' ∧ OnResult
      (fun _ w' => w.store.tables.insertUser (.ofUser u) = .ok w'.store.tables)
      (fun _ w' => w'.store.tables = w.store.tables) r w')
    (Database.attempt_ensures (((Database.execute_within rfl).and
      (Database.execute_run rfl hw)).mono ?_ ?_)) ?_
  · intro o w' ⟨hin, h⟩
    exact ⟨hin, Database.inserted h⟩
  · rintro (fault | _ | _) w' ⟨h, -⟩ <;> exact h
  -- the fault decides only for the wording of the refusal
  · rintro ((fault | _ | _ | _ | _) | o) w' ⟨hin, h⟩
    · show Ensures (ite _ _ _) _ _ _
      split
      · exact ⟨hin, h⟩
      · exact ⟨hin, h⟩
    · exact ⟨hin, h⟩
    · exact ⟨hin, h⟩
    · exact ⟨hin, h⟩
    · exact ⟨hin, h⟩
    · exact ⟨rfl, hin, h⟩

/-- A fair database takes a user with an unused identifier, unless the address is taken. -/
theorem createUser_fair {u : User} (hw : w.store.Fair)
    (hid : ∀ r ∈ w.store.tables.users, r.id ≠ u.id) :
    Ensures (createUser u) w
      (fun v _ => v = u ∧ ∀ r ∈ w.store.tables.users, r.email ≠ u.email.text)
      (fun e w' => e = .refused (.emailTaken u.email.text)
        ∧ (∃ r ∈ w.store.tables.users, r.email = u.email.text)
        ∧ Within w w' ∧ w'.store.tables = w.store.tables) := by
  have hinsert := Database.insertUser_of_unused (u := .ofUser u) hid
  refine Ensures.bind (Database.attempt_ensures (Q := fun r w' =>
    (r = .error (.server (.duplicate "users_email_key"))
      ∧ (∃ r ∈ w.store.tables.users, r.email = u.email.text)
      ∧ Within w w' ∧ w'.store.tables = w.store.tables)
    ∨ (∃ o, r = .ok o) ∧ ∀ r ∈ w.store.tables.users, r.email ≠ u.email.text)
    ((Database.execute_fair rfl hw).mono ?_ ?_)) ?_
  · rintro o w' ⟨-, hrun⟩
    obtain ⟨-, -, hnew⟩ := Database.insertUser_ok (Database.inserted hrun)
    exact .inr ⟨⟨o, rfl⟩, hnew⟩
  · rintro e w' ⟨hin, ht, fault, hrun, rfl⟩
    have hrefused := Database.insertion_refused hrun
    rw [hinsert] at hrefused
    split at hrefused
    · rename_i htaken
      obtain rfl := Except.error.inj hrefused
      have hrow : ∃ r ∈ w.store.tables.users, r.email = u.email.text := by
        simpa [UserRow.ofUser] using htaken
      exact .inl ⟨rfl, hrow, hin, ht⟩
    · cases hrefused
  · rintro r w' (⟨rfl, htaken, hin, ht⟩ | ⟨⟨o, rfl⟩, hnew⟩)
    · exact ⟨rfl, htaken, hin, ht⟩
    · exact ⟨rfl, hnew⟩

/-! ## Sessions -/

section Sessions

variable {userId : UserId} {secret : String} {expiresAt : Instant} {client : Client}
  {rotatedFrom : Option SessionId}

/-- Drawing an identifier leaves alone what a statement leaves alone. -/
theorem drawId_ensures {F : Failure SessionFault → World Database → Prop} (hf : F .panicked w) :
    Ensures (SessionId.mk <$> Act.draw Uuid.random?) w
      (fun _ w' => ∃ r, w' = { w with random := r }) F :=
  Ensures.map (Act.draw_ensures (fun _ r _ => ⟨r, rfl⟩) fun _ => hf)

/-- What is left alone does not depend on the random source. -/
theorem within_of_random {r : RandomSource} {w' : World Database}
    (h : Within { w with random := r } w') : Within w w' :=
  ⟨h.now, h.atStart, h.interferences, h.answers, h.log⟩

theorem createSession_within :
    Ensures (createSession userId secret expiresAt client rotatedFrom) w
      (fun _ w' => Within w w') (fun _ w' => Within w w' ∧ w'.store.tables = w.store.tables) := by
  refine Ensures.bind (drawId_ensures ⟨Within.refl w, rfl⟩) ?_
  rintro id _ ⟨r, rfl⟩
  refine Ensures.bind ((execute_within rfl).mono (fun _ _ h => within_of_random h)
    fun _ _ h => ⟨within_of_random h.1, h.2⟩) ?_
  intro _ _ h
  exact h

/-- A session is created by inserting the row under a new identifier, or not at all. -/
theorem createSession_ensures (hw : w.store.Faithful) :
    Ensures (createSession userId secret expiresAt client rotatedFrom) w
      (fun id w' => Within w w' ∧ w.store.tables.insertSession
        (.of id userId (RefreshSecret.digest secret) expiresAt client rotatedFrom)
          w.now.floorMicros = .ok w'.store.tables)
      (fun _ w' => Within w w' ∧ w'.store.tables = w.store.tables) := by
  refine Ensures.bind (drawId_ensures ⟨Within.refl w, rfl⟩) ?_
  rintro id _ ⟨r, rfl⟩
  refine Ensures.bind_mono (execute_ensures (w := { w with random := r }) rfl hw)
    (fun _ _ h => ⟨within_of_random h.1, h.2⟩) ?_
  intro o w' ⟨hin, h⟩
  exact ⟨within_of_random hin, Database.inserted h⟩

/-- In a fair database, a session is created under the identifier that is drawn, if the tables admit
it. -/
theorem createSession_fair {id : Uuid} {rest : RandomSource} (hw : w.store.Fair)
    (hdraw : Uuid.random? w.random = some (id, rest)) :
    Ensures (createSession userId secret expiresAt client rotatedFrom) w
      (fun id' w' => id' = ⟨id⟩ ∧ Within w w' ∧ w.store.tables.insertSession
        (.of ⟨id⟩ userId (RefreshSecret.digest secret) expiresAt client rotatedFrom)
          w.now.floorMicros = .ok w'.store.tables)
      (fun e _ => ∃ fault, w.store.tables.insertSession
        (.of ⟨id⟩ userId (RefreshSecret.digest secret) expiresAt client rotatedFrom)
          w.now.floorMicros = .error fault ∧ e = .refused (sessionFault (.server fault))) := by
  refine Ensures.bind (Q := fun id' w' => id' = ⟨id⟩ ∧ w' = { w with random := rest })
    (Ensures.map (Act.draw_ensures ?_ fun h => ?_)) ?_
  · intro x r h
    rw [hdraw] at h
    cases h
    exact ⟨rfl, rfl⟩
  · rw [hdraw] at h
    cases h
  rintro _ _ ⟨rfl, rfl⟩
  refine Ensures.bind (Database.mapFault_ensures ((Database.execute_fair
    (w := { w with random := rest }) rfl hw).mono (fun _ _ h => h) ?_)) ?_
  · rintro _ _ ⟨-, -, fault, h, rfl⟩
    exact ⟨fault, Database.insertion_refused h, rfl⟩
  · rintro o w' ⟨hin, h⟩
    exact ⟨rfl, within_of_random hin, Database.inserted h⟩

/-- Whether a secret has a session that is not revoked. -/
def IsOpen (t : Tables) (secret : String) : Prop :=
  ∃ row ∈ t.sessions, row.digest = RefreshSecret.digest secret ∧ row.revokedAt = none

theorem isOpen_iff (t : Tables) (moment : Instant) :
    IsOpen t secret
      ↔ (t.revoke (·.digest == RefreshSecret.digest secret) moment).1.changed ≠ 0 := by
  rw [Ne, Database.revoke_changed_eq_zero_iff]
  constructor
  · rintro ⟨row, hrow, hdigest, hopen⟩ hall
    have hrev := hall row hrow (beq_iff_eq.mpr hdigest)
    rw [hopen] at hrev
    cases hrev
  · intro h
    refine Classical.byContradiction fun hnone => h fun row hrow hdigest => ?_
    rw [Option.isSome_iff_ne_none]
    exact fun hopen => hnone ⟨row, hrow, beq_iff_eq.mp hdigest, hopen⟩

/-- The session of a secret is revoked if it is open, and otherwise nothing is. -/
theorem revokeSession_ensures (hw : w.store.Faithful) :
    Ensures (revokeSession secret) w
      (fun _ w' => IsOpen w.store.tables secret ∧ Within w w'
        ∧ w'.store.tables = (w.store.tables.revoke (·.digest == RefreshSecret.digest secret)
            w.now.floorMicros).2)
      (fun _ w' => Within w w' ∧ w'.store.tables = w.store.tables) := by
  refine Ensures.bind (execute_ensures rfl hw) ?_
  rintro o w' ⟨hin, h⟩
  have hr : w.store.tables.revoke (·.digest == RefreshSecret.digest secret) w.now.floorMicros
      = (o, w'.store.tables) := Except.ok.inj h
  show Ensures (if o.changed = 0 then _ else _) _ _ _
  by_cases hz : o.changed = 0
  · rw [if_pos hz]
    -- the refusal comes behind the statement, which has then met no row
    have hsame : (w.store.tables.revoke (·.digest == RefreshSecret.digest secret)
        w.now.floorMicros).2 = w.store.tables := by
      refine Database.revoke_of_changed_eq_zero ?_
      rw [hr]
      exact hz
    rw [hr] at hsame
    exact ⟨hin, hsame⟩
  · rw [if_neg hz]
    refine ⟨?_, hin, by rw [hr]⟩
    rw [isOpen_iff _ w.now.floorMicros, hr]
    exact hz

/-- In a fair database, a session is revoked exactly if it is open. -/
theorem revokeSession_fair (hw : w.store.Fair) :
    Ensures (revokeSession secret) w (fun _ _ => IsOpen w.store.tables secret)
      (fun e _ => ¬IsOpen w.store.tables secret ∧ e = .refused .unknown) := by
  rw [isOpen_iff _ w.now.floorMicros]
  refine Ensures.bind_mono (execute_fair rfl hw rfl) (fun _ _ h => h.elim) ?_
  rintro o w' ⟨-, rfl, -⟩
  split
  · exact ⟨fun hne => hne ‹_›, rfl⟩
  · exact ‹_›

/-- All sessions of a user are revoked and counted, or nothing is done. -/
theorem revokeAllSessions_ensures (hw : w.store.Faithful) :
    Ensures (revokeAllSessions userId) w
      (fun n w' => Within w w'
        ∧ w.store.tables.revoke (·.userId == userId) w.now.floorMicros = (⟨[], n⟩, w'.store.tables))
      (fun _ w' => Within w w' ∧ w'.store.tables = w.store.tables) := by
  refine Ensures.bind (execute_ensures rfl hw) ?_
  rintro o w' ⟨hin, h⟩
  have hr : w.store.tables.revoke (·.userId == userId) w.now.floorMicros
      = (o, w'.store.tables) := Except.ok.inj h
  obtain ⟨rows, n⟩ := o
  have hrows : [] = rows := congrArg (fun p => p.1.rows) hr
  subst hrows
  exact ⟨hin, hr⟩

/-- In a fair database, all sessions of a user are revoked. -/
theorem revokeAllSessions_fair (hw : w.store.Fair) :
    Ensures (revokeAllSessions userId) w (fun _ _ => True) (fun _ _ => False) := by
  refine Ensures.bind (execute_fair rfl hw rfl) ?_
  intro _ _ _
  trivial

end Sessions

end SessionAuth.Relational
