import SessionAuth.Proofs.Service.Spent
import SessionAuth.Proofs.Store.AppendOnly

/-!
The sessions behind any sequence of operations.

The operations are those of the service and those of the repositories, in any order. Each of them has its
own circumstances, and the database may do anything to its statements: refuse them, leave them
unanswered, skip them, or return other rows than the tables hold. Whatever happens, sessions are only
added and revoked once (`sessions_append_only`).
-/

set_option autoImplicit false

namespace SessionAuth

open Database (SessionRow Tables Condition Interference)

/-! ## Operations -/

/-- What can be done to a database: a request to the service, or a call of a repository. -/
inductive Operation where
  | serve (q : Request)
  | createUser (u : User)
  | findUserById (id : UserId)
  | findUserByEmail (email : Email)
  | createSession (userId : UserId) (secret : String) (expiresAt : Instant) (client : Client)
      (rotatedFrom : Option SessionId)
  | validateSession (secret : String)
  | rotateSession (oldSecret newSecret : String) (expiresAt : Instant) (client : Client)
  | revokeSession (secret : String)
  | revokeAllSessions (userId : UserId)

/-- An operation and its circumstances. -/
structure Turn where
  operation : Operation
  now : Instant
  random : RandomSource
  answers : Bool
  interferences : List (Nat × Interference)

/-- The state in which an operation starts. A transaction that nobody has closed is dropped. -/
def ServiceState.enter (o : Turn) (st : ServiceState Database) : ServiceState Database :=
  { st with world :=
    { st.world with
      now := o.now
      random := o.random
      store :=
        { tables := st.world.store.settled
          interferences := o.interferences
          answers := o.answers } } }

/-- The state behind a call of a repository. -/
def ServiceState.behind {ε α : Type} (a : Act Database ε α) (st : ServiceState Database) :
    ServiceState Database := { st with world := (a st.world).2 }

namespace TableService

/-- The state behind an operation. -/
def operate (s : TableService) : Operation → ServiceState Database → ServiceState Database
  | .serve q, st => (s.service.serve q st).2
  | .createUser u, st => st.behind (Relational.createUser u)
  | .findUserById id, st => st.behind (Relational.findUserById id)
  | .findUserByEmail email, st => st.behind (Relational.findUserByEmail email)
  | .createSession userId secret expiresAt client rotatedFrom, st =>
    st.behind (Relational.createSession userId secret expiresAt client rotatedFrom)
  | .validateSession secret, st => st.behind (Relational.validateSession secret)
  | .rotateSession oldSecret newSecret expiresAt client, st =>
    st.behind (Relational.rotateSession s.lockTimeout oldSecret newSecret expiresAt client)
  | .revokeSession secret, st => st.behind (Relational.revokeSession secret)
  | .revokeAllSessions userId, st => st.behind (Relational.revokeAllSessions userId)

/-- The state behind one operation after the other. -/
def operations (s : TableService) (l : List Turn) (st : ServiceState Database) :
    ServiceState Database := l.foldl (fun st o => s.operate o.operation (st.enter o)) st

/-! ## What they keep -/

section Advances

variable {R : Tables → Tables → Prop} {s : TableService}

/-- Every operation advances the database. -/
theorem operate_advances (h : Database.StatementsMoveAlong R) (o : Operation)
    (st : ServiceState Database) :
    Database.Advances R st.world.store (s.operate o st).world.store := by
  cases o with
  | serve q => exact ((Service.serve_moves (h.steps.movesAlong s.lockTimeout) q).step st).store
  | createUser u => exact (h.steps.createUser u).step st.world
  | findUserById id => exact (h.steps.findUserById id).step st.world
  | findUserByEmail email => exact (h.steps.findUserByEmail email).step st.world
  | createSession userId secret expiresAt client rotatedFrom =>
    exact (h.steps.createSession userId secret rotatedFrom).step st.world
  | validateSession secret => exact (h.steps.validateSession trivial).step st.world
  | rotateSession oldSecret newSecret expiresAt client =>
    exact (h.steps.rotateSession s.lockTimeout trivial newSecret).step st.world
  | revokeSession secret => exact (h.steps.revokeSession trivial).step st.world
  | revokeAllSessions userId => exact (h.steps.revokeAllSessions userId).step st.world

/-- What every statement keeps, any sequence of operations keeps. -/
theorem operations_move (h : Database.StatementsMoveAlong R) (l : List Turn)
    (st : ServiceState Database) : R st.tables (s.operations l st).tables := by
  induction l generalizing st with
  | nil => exact h.refl _
  | cons o rest ih =>
    -- nothing is pending where an operation starts, so what counts moves along with what it does
    have hadvances := operate_advances (s := s) h o.operation (st.enter o)
    have hfirst : R st.tables (s.operate o.operation (st.enter o)).tables :=
      h.advances_idle (st.enter o).world.store rfl hadvances
    exact h.trans _ _ _ hfirst (ih _)

/-- So does a request that is served in its circumstances. -/
theorem visit_moves (h : Database.StatementsMoveAlong R) (o : Occasion Condition)
    (st : ServiceState Database) : R st.tables (s.visit o st).2.tables := by
  have hserved : (st.meet Database.meet o).Moves (Database.Advances R) (s.visit o st).2 :=
    (Service.serve_moves (s := s.service) (h.steps.movesAlong s.lockTimeout) o.request).step _
  exact h.advances_idle (st.meet Database.meet o).world.store rfl hserved.store

theorem run_moves (h : Database.StatementsMoveAlong R) (l : List (Occasion Condition))
    (st : ServiceState Database) : R st.tables (s.run l st).2.tables := by
  refine Service.run_induction (s := s.service) (P := fun _ st' => R st.tables st'.tables) ?_ l []
    st (h.refl _)
  intro _ o st' hst
  exact h.trans _ _ _ hst (visit_moves (s := s) h o st')

end Advances

end TableService

/-- **Sessions are append-only, and revocation is write-once.** Whatever the database holds, and whatever is
done to it in whichever circumstances: each row is still in its place with everything in it, the time
of its revocation included if it was set; and digests that were pairwise different still are. -/
theorem sessions_append_only (s : TableService) (l : List Turn) (start : ServiceState Database) :
    (∀ (i : Nat) (r : SessionRow), start.tables.sessions[i]? = some r →
      ∃ r', (s.operations l start).tables.sessions[i]? = some r' ∧ r.Persists r')
    ∧ ((start.tables.sessions.map (·.digest)).Nodup →
      ((s.operations l start).tables.sessions.map (·.digest)).Nodup) := by
  have h : start.tables.AppendOnly (s.operations l start).tables :=
    TableService.operations_move Tables.AppendOnly.statements l start
  exact ⟨h.sessions, h.digests⟩

/-! ### A session that is replaced behind the back of its user -/

/-- The only session is ended. Then an attempt is made to replace it, in a database that skips the
transaction and reports the session as open; then it is ended once more. -/
def stubborn : List Turn :=
  [⟨.serve (.logout "abc"), .ofSeconds 1, ⟨.ofSeed 2, none⟩, true, []⟩,
    ⟨.rotateSession "abc" "def" (.ofSeconds 90) ⟨none, none⟩, .ofSeconds 2, ⟨.ofSeed 3, none⟩, true,
      [(0, .ignore), (2, .patch [("revoked_at", .null)])]⟩,
    ⟨.revokeAllSessions loneRow.userId, .ofSeconds 3, ⟨.ofSeed 4, none⟩, true, []⟩]

theorem sessions_append_only_stubborn :
    (lone.tables.sessions.map (·.digest)).Nodup
      ∧ (∃ r', (loneService.operations stubborn lone).tables.sessions[0]? = some r'
          ∧ loneRow.Persists r')
      ∧ ((loneService.operations stubborn lone).tables.sessions.map (·.digest)).Nodup := by
  have hdigests : (lone.tables.sessions.map (·.digest)).Nodup := lone_lineage.digests
  have hrow : lone.tables.sessions[0]? = some loneRow := by
    rw [lone_sessions]
    rfl
  have h := sessions_append_only loneService stubborn lone
  exact ⟨hdigests, h.1 0 loneRow hrow, h.2 hdigests⟩

end SessionAuth
