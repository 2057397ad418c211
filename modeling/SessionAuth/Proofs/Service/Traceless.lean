import SessionAuth.Proofs.Service.Arguments
import SessionAuth.Proofs.Service.Calls
import SessionAuth.Proofs.Service.Issued

/-!
Requests that fail without a trace.

Registering, logging in and ending sessions write last: all that can fail comes before the one call that
writes, but for reports, which cannot. So if that call takes back what it has done where it fails
(`Store.Traceless`), then so does the request, and both stores are like that in every state and
whatever goes wrong with them. The order of the steps is all that this rests on. A refresh signs behind
the rotation and is left out.

A request with malformed arguments does not get that far. It is turned away (`Request.TurnedAway`): what it
is answered depends on nothing but its arguments, and neither the store nor the random source is as much
as looked at.
-/

set_option autoImplicit false

namespace SessionAuth

variable {σ ε α γ : Type} {view : σ → γ}

/-- **An action that leaves no trace where it fails**: what is seen of the state is as it was. Nothing is
said of where it succeeds. -/
def FailsTraceless {S φ : Type} (view : S → γ) (a : ExceptT φ (StateM S) α) (s : S) : Prop :=
  Ensures a s (fun _ _ => True) fun _ t => view t = view s

/-- **A store that fails without a trace** in what is seen of it. Looking for a user leaves none in any
case. Nothing is asked of rotations. -/
structure Store.Traceless (store : Store σ) (view : σ → γ) : Prop where
  createUser : ∀ {w : World σ} (user : User),
    FailsTraceless (view ·.store) (store.createUser user) w
  findUserByEmail : ∀ {w : World σ} (email : Email),
    Spares (view ·.store) (store.findUserByEmail email) w
  createSession : ∀ {w : World σ} (owner : UserId) (secret : String) (expiresAt : Instant)
    (client : Client) (rotatedFrom : Option SessionId),
    FailsTraceless (view ·.store)
      (store.createSession owner secret expiresAt client rotatedFrom) w
  revokeSession : ∀ {w : World σ} (secret : String),
    FailsTraceless (view ·.store) (store.revokeSession secret) w
  revokeAllSessions : ∀ {w : World σ} (owner : UserId),
    FailsTraceless (view ·.store) (store.revokeAllSessions owner) w

/-! ## The tables -/

namespace Database

/-- **A statement that counts what it changes**: where it has counted nothing, the tables are as they
were. -/
def Statement.Counts (s : Statement) : Prop :=
  s.isBoundary = false ∧ ∀ (t t' : Tables) (now : Instant) (o : Outcome),
    t.run now s = .ok (o, t') → o.changed = 0 → t' = t

/-- The count can be relied on whatever the database does: a statement that is skipped counts nothing,
and altering rows does not alter the count. -/
theorem execute_counts {s : Statement} (hs : s.Counts) {w : World Database} :
    Ensures (execute s) w (fun o w' => o.changed = 0 → w'.store.tables = w.store.tables)
      fun _ _ => True := by
  -- what is carried out and what comes back altered meet here, as they count alike
  have hperform : Ensures (perform s) (sent s w)
      (fun o w' => o.changed = 0 → w'.store.tables = w.store.tables) fun _ _ => True := by
    refine (perform_ensures hs.1).mono ?_ fun _ _ _ => trivial
    rintro o _ ⟨t, hrun, rfl⟩
    exact hs.2 _ _ _ _ hrun
  exact execute_ensures (fun _ => trivial) (fun _ => trivial) (fun _ _ => trivial)
    (fun _ _ => rfl) (fun _ _ => hperform) fun _ => hperform

theorem revokeByDigest_counts (digest : Bytes) : (Statement.revokeByDigest digest).Counts := by
  refine ⟨rfl, fun t t' now o hrun hnone => ?_⟩
  obtain ⟨rfl, rfl⟩ := Prod.mk.inj (Except.ok.inj hrun)
  exact revoke_of_changed_eq_zero hnone

/-- All that requests can see: the tables, and what becomes of them if the transaction is dropped. -/
def contents (db : Database) : Tables × Option Tables := (db.tables, db.atStart)

theorem contents_eq {w w' : World Database} (hin : Within w w')
    (ht : w'.store.tables = w.store.tables) : w'.store.contents = w.store.contents :=
  Prod.ext ht hin.atStart

end Database

namespace Relational

variable {w : World Database} {s : Database.Statement}

/-- A statement that fails has not been carried out. -/
theorem execute_failsTraceless (hs : s.isBoundary = false) :
    FailsTraceless (·.store.contents) (execute s) w :=
  (execute_within hs).mono (fun _ _ _ => trivial) fun _ _ h => Database.contents_eq h.1 h.2

/-- The refusal comes behind the statement, which has then met no row. -/
theorem revokeSession_failsTraceless (secret : String) :
    FailsTraceless (·.store.contents) (revokeSession secret) w := by
  have hcounts : Ensures (execute (.revokeByDigest (RefreshSecret.digest secret))) w
      (fun o w' => o.changed = 0 → w'.store.tables = w.store.tables) fun _ _ => True :=
    Database.mapFault_ensures (Database.execute_counts (Database.revokeByDigest_counts _))
  refine Ensures.bind_mono ((execute_within rfl).and hcounts)
    (fun _ _ h => Database.contents_eq h.1.1 h.1.2) ?_
  rintro o w' ⟨hin, hnone⟩
  split
  · exact Database.contents_eq hin (hnone ‹_›)
  · trivial

/-- A user is added by one statement, whose failure is put into other words. -/
theorem createUser_failsTraceless (user : User) :
    FailsTraceless (·.store.contents) (createUser user) w := by
  refine Ensures.bind (Q := fun r w' => ∀ fault, r = .error fault →
      w'.store.contents = w.store.contents)
    (Database.attempt_ensures ((Database.execute_within rfl).mono ?_ ?_)) ?_
  · exact fun _ _ _ => nofun
  · rintro (fault | _ | _) w' ⟨hin, ht⟩
    · exact fun _ _ => Database.contents_eq hin ht
    · exact Database.contents_eq hin ht
    · exact Database.contents_eq hin ht
  -- the code of the fault decides only about the words that it is put into
  rintro ((fault | _ | _ | _ | _) | o) w' h
  · show Ensures (ite _ _ _) _ _ _
    split
    · exact h _ rfl
    · exact h _ rfl
  · exact h _ rfl
  · exact h _ rfl
  · exact h _ rfl
  · exact h _ rfl
  · trivial

/-- **The tables fail without a trace**, whatever the database does: statements may fail, be left
unanswered, be skipped or come back altered. -/
theorem traceless (lockTimeout : Duration) :
    (store lockTimeout).Traceless Database.contents where
  createUser := createUser_failsTraceless
  findUserByEmail email := by
    have hselects : (Database.Statement.userByEmail email.text).Selects := by
      refine ⟨rfl, fun t t' now o hrun => ?_⟩
      exact (Prod.mk.inj (Except.ok.inj hrun)).2.symm
    exact (findUser_selects hselects).mono (fun _ _ h => Database.contents_eq h.1 h.2)
      fun _ _ h => Database.contents_eq h.1 h.2
  createSession _ _ _ _ _ :=
    createSession_within.mono (fun _ _ _ => trivial) fun _ _ h => Database.contents_eq h.1 h.2
  revokeSession := revokeSession_failsTraceless
  revokeAllSessions _ := Ensures.bind (execute_failsTraceless rfl) fun _ _ _ => trivial

end Relational

/-! ## The store in memory -/

/-- **The store in memory fails without a trace**, also where it is told to misbehave: it decides before it
writes. -/
theorem MemoryStore.traceless : store.Traceless kept where
  createUser user := by
    -- whether the address is taken is found out before the user is added
    refine answering_ensures (fun _ => rfl) (fun _ _ => rfl) fun _ => Act.store_bind ?_
    split
    · rfl
    · exact Act.modifyStore_bind trivial
  findUserByEmail email := answering_ensures (fun _ => rfl) (fun _ _ => rfl) fun _ => rfl
  createSession _ _ _ _ _ := answering_ensures (fun _ => rfl) (fun _ _ => rfl) fun _ =>
    Act.store_bind (Act.now_bind (Act.modifyStore_bind trivial))
  revokeSession secret := by
    refine answering_ensures (fun _ => rfl) (fun _ _ => rfl) fun _ => ?_
    refine Act.store_bind (Act.now_bind ?_)
    dsimp only
    split
    · trivial
    · rfl
  revokeAllSessions _ := answering_ensures (fun _ => rfl) (fun _ _ => rfl) fun _ =>
    Act.store_bind (Act.now_bind (Act.modifyStore_bind trivial))

/-! ## Requests -/

/-- A request that replaces a session: it has something left to do behind its write. -/
def Request.Rotates : Request → Prop
  | .refresh _ _ => True
  | _ => False

namespace Service

variable {s : Service σ} {st : ServiceState σ}

/-- What is seen of the store of a service. -/
abbrev seen (view : σ → γ) (st : ServiceState σ) : γ := view st.world.store

theorem seen_of_quiet {st st' : ServiceState σ} (h : Quiet st st') : seen view st' = seen view st :=
  congrArg view h.store

/-- A call that leaves no trace where it fails leaves none either where its fault is handed on. -/
theorem bounded_failsTraceless {operation : String} {a : Act σ ε α}
    (h : FailsTraceless (view ·.store) a st.world) :
    Ensures (s.bounded operation a) st
      (fun r st' => ∀ fault, r = .error fault → seen view st' = seen view st)
      (fun _ st' => seen view st' = seen view st) := by
  refine (bounded_ensures h).mono ?_ ?_
  · rintro (fault | x) _ ⟨w, rfl, hw⟩
    · exact fun _ _ => hw
    · exact nofun
  · rintro e st' ⟨_, w, hw, hst, -⟩
    exact (congrArg view hst).trans hw

theorem boundedSession_failsTraceless {operation : String} {a : Act σ SessionFault α}
    (h : FailsTraceless (view ·.store) a st.world) :
    FailsTraceless (seen view) (s.boundedSession operation a) st := by
  refine (boundedSession_ensures h).mono (fun _ _ _ => trivial) ?_
  rintro e st' ⟨_, w, hw, hst, -⟩
  exact (congrArg view hst).trans hw

theorem register_failsTraceless (hs : s.store.Traceless view) (raw password : String) :
    FailsTraceless (seen view) (s.register raw password) st := by
  refine Ensures.bind_mono requireEmail_ensures (fun _ _ h => seen_of_quiet h) ?_
  rintro email st₀ ⟨rfl, -⟩
  split
  · refine Ensures.bind_mono Serve.hash_quiet (fun _ _ h => seen_of_quiet h) ?_
    rintro (fault | hash) st₁ h₁
    · exact internal_ensures fun _ h => seen_of_quiet (h₁.trans h)
    refine Ensures.get_bind (Ensures.bind_mono Serve.draw_quiet
      (fun _ _ h => seen_of_quiet (h₁.trans h)) ?_)
    intro user st₂ h₂
    -- nothing has been written so far, and what can fail from here on is the call that writes
    have hbefore : seen view st₂ = seen view st₀ := seen_of_quiet (h₁.trans h₂)
    refine Ensures.bind_mono (bounded_failsTraceless (hs.createUser user))
      (fun _ _ h => h.trans hbefore) ?_
    intro r st₃ h₃
    split
    · exact Serve.report_bind fun _ _ => trivial
    · exact Serve.report_bind fun _ h => (seen_of_quiet h).trans ((h₃ _ rfl).trans hbefore)
    · exact internal_ensures fun _ h => (seen_of_quiet h).trans ((h₃ _ rfl).trans hbefore)
  · rfl

/-- The tokens of a login are signed before the session is stored. -/
theorem openSession_failsTraceless (hs : s.store.Traceless view) (user : User)
    (client : Client) : FailsTraceless (seen view) (s.openSession user client) st := by
  refine Ensures.bind_mono newRefreshSecret_ensures (fun _ _ h => seen_of_quiet h.1) ?_
  rintro secret st₁ ⟨h₁, -⟩
  refine Ensures.bind_mono expiryAfter_ensures (fun _ _ h => seen_of_quiet (h₁.trans h.1)) ?_
  rintro expires st₁ ⟨rfl, -⟩
  refine Ensures.bind_mono issue_ensures (fun _ _ h => seen_of_quiet (h₁.trans h.1)) ?_
  rintro tokens st₁ ⟨rfl, -⟩
  -- behind the signing, all that can fail is the call that writes
  refine Ensures.bind_mono (boundedSession_failsTraceless (hs.createSession _ _ _ _ _))
    (fun _ _ h => h.trans (seen_of_quiet h₁)) ?_
  intro id st₂ _
  exact Serve.report_bind fun _ _ => trivial

theorem login_failsTraceless (hs : s.store.Traceless view) (raw password : String)
    (client : Client) : FailsTraceless (seen view) (s.login raw password client) st := by
  refine Ensures.bind_mono requireEmail_ensures (fun _ _ h => seen_of_quiet h) ?_
  rintro email st₀ ⟨rfl, -⟩
  show Ensures (if password.isEmpty then _ else _) _ _ _
  split
  · rfl
  -- the user is looked for with the store left alone, whoever is found
  have hlooked : Ensures (s.bounded "find_user_by_email" (s.store.findUserByEmail email)) st₀
      (fun _ st' => seen view st' = seen view st₀) (fun _ st' => seen view st' = seen view st₀) := by
    refine (bounded_ensures (hs.findUserByEmail email)).mono ?_ ?_
    · rintro (fault | user?) _ ⟨w, rfl, hw⟩
      · exact hw
      · exact hw
    · rintro e st' ⟨_, w, hw, hst, -⟩
      exact (congrArg view hst).trans hw
  refine Ensures.bind_mono hlooked (fun _ _ h => h) ?_
  rintro (fault | _ | user) st₁ h₁
  · exact internal_ensures fun _ h => (seen_of_quiet h).trans h₁
  · refine Ensures.bind_mono equalizeUnknownUser_quiet
      (fun _ _ h => (seen_of_quiet h).trans h₁) fun _ st₂ h₂ => ?_
    exact Serve.report_bind fun _ h => (seen_of_quiet (h₂.trans h)).trans h₁
  · refine Ensures.bind_mono authenticate_ensures (fun _ _ h => (seen_of_quiet h).trans h₁) ?_
    rintro _ st₂ ⟨h₂, -⟩
    exact (openSession_failsTraceless hs user client).mono (fun _ _ h => h)
      fun _ _ h => h.trans ((seen_of_quiet h₂).trans h₁)

theorem logout_failsTraceless (hs : s.store.Traceless view) (raw : String) :
    FailsTraceless (seen view) (s.logout raw) st := by
  refine Ensures.bind_mono requireArgument_ensures (fun _ _ h => h ▸ rfl) ?_
  rintro secret st₀ ⟨rfl, -⟩
  refine Ensures.bind (boundedSession_failsTraceless (hs.revokeSession secret)) ?_
  intro _ st₁ _
  exact Serve.report_ensures fun _ _ => trivial

theorem logoutAll_failsTraceless (hs : s.store.Traceless view) (user : UserId) :
    FailsTraceless (seen view) (s.logoutAll user) st := by
  refine Ensures.bind (boundedSession_failsTraceless (hs.revokeAllSessions user)) ?_
  intro n st₁ _
  exact Serve.report_bind fun _ _ => trivial

/-- **A request that fails leaves no trace** in a store that fails without one, unless it is a refresh. -/
theorem serve_failsTraceless (hs : s.store.Traceless view) {q : Request} (hq : ¬q.Rotates) :
    FailsTraceless (seen view) (s.serve q) st := by
  cases q with
  | register raw password => exact register_failsTraceless hs raw password
  | login raw password client => exact login_failsTraceless hs raw password client
  | refresh raw client => exact absurd trivial hq
  | validate raw =>
    exact (validate_untouched raw).mono (fun _ _ _ => trivial) fun _ _ h => congrArg view h
  | logout raw => exact logout_failsTraceless hs raw
  | logoutAll user => exact logoutAll_failsTraceless hs user

end Service

/-! ## Requests that are turned away -/

/-- The state in which something more has been reported. -/
def ServiceState.reporting (st : ServiceState σ) (events : List Event) : ServiceState σ :=
  { st with world := { st.world with events := st.world.events ++ events } }

theorem ServiceState.reporting_nil (st : ServiceState σ) : st.reporting [] = st := by
  unfold reporting
  rw [List.append_nil]

/-- **A request that is turned away**: one answer and one report for every service, on whatever store, by
whatever clock and next to whatever random source. As the answer is the same on all stores, none is
called; as it is the same next to all random sources, none is read; and all that is left behind is what
has been reported. -/
def Request.TurnedAway (q : Request) : Prop :=
  ∃ (message : String) (events : List Event), ∀ {σ : Type} (s : Service σ) (st : ServiceState σ),
    s.serve q st = (.error (.refused (.invalidArgument message)), st.reporting events)

namespace Service

variable {st : ServiceState σ} {raw : String}

theorem requireEmail_flawed {flaw : Email.Flaw} (h : Email.parse raw = .error flaw)
    (f : Email → Serve σ AuthFault α) :
    (requireEmail raw >>= f) st = (.error (.refused (.invalidArgument "invalid email")),
      st.reporting [⟨.debug, "Rejected email", [("reason", .text flaw.message)]⟩]) := by
  unfold requireEmail
  rw [h]
  rfl

theorem requireEmail_read {email : Email} (h : Email.parse raw = .ok email)
    (f : Email → Serve σ AuthFault α) : (requireEmail raw >>= f) st = f email st := by
  unfold requireEmail
  rw [h]
  rfl

theorem requireArgument_blank {field : String} (h : (Text.trim raw.toList).isEmpty = true)
    (f : String → Serve σ AuthFault α) :
    (requireArgument raw field >>= f) st
      = (.error (.refused (.invalidArgument (field ++ " required"))), st.reporting []) := by
  unfold requireArgument
  rw [required_blank h, st.reporting_nil]
  rfl

end Service

namespace Request

theorem register_turnedAway {raw password : String}
    (h : ¬(Request.register raw password).WellFormed) : (register raw password).TurnedAway := by
  cases hemail : Email.parse raw with
  | error flaw => exact ⟨_, _, fun _ _ => Service.requireEmail_flawed hemail _⟩
  | ok email =>
    have hshort : Password.ofText? password = none :=
      dif_neg fun hlong => h ⟨⟨email, hemail⟩, hlong⟩
    refine ⟨"password must be at least " ++ Decimal.toText Password.leastLength ++ " characters", [],
      fun _ st => (Service.requireEmail_read hemail _).trans ?_⟩
    rw [hshort, st.reporting_nil]
    rfl

theorem login_turnedAway {raw password : String} {client : Client}
    (h : ¬(Request.login raw password client).WellFormed) :
    (login raw password client).TurnedAway := by
  cases hemail : Email.parse raw with
  | error flaw => exact ⟨_, _, fun _ _ => Service.requireEmail_flawed hemail _⟩
  | ok email =>
    have hempty : password.isEmpty = true :=
      eq_true_of_ne_false fun hthere => h ⟨⟨email, hemail⟩, hthere⟩
    refine ⟨"password required", [], fun _ st => (Service.requireEmail_read hemail _).trans ?_⟩
    rw [if_pos hempty, st.reporting_nil]
    rfl

/-- **A request with malformed arguments is turned away.** -/
theorem turnedAway {q : Request} (h : ¬q.WellFormed) : q.TurnedAway := by
  cases q with
  | register raw password => exact register_turnedAway h
  | login raw password client => exact login_turnedAway h
  | refresh raw client =>
    exact ⟨_, _, fun _ _ => Service.requireArgument_blank (eq_true_of_ne_false h) _⟩
  | validate raw =>
    exact ⟨_, _, fun _ _ => Service.requireArgument_blank (eq_true_of_ne_false h) _⟩
  | logout raw => exact ⟨_, _, fun _ _ => Service.requireArgument_blank (eq_true_of_ne_false h) _⟩
  | logoutAll user => exact absurd trivial h

end Request

/-- What becomes of a request that fails: nothing that is seen of the store is changed by it, unless it is a
refresh; and it has been turned away if its arguments are to blame. -/
theorem Service.serve_failed {s : Service σ} (hs : s.store.Traceless view) (q : Request)
    (st : ServiceState σ) :
    Ensures (s.serve q) st (fun _ _ => True)
      (fun e st' => (¬q.Rotates → seen view st' = seen view st)
        ∧ (e.BlamesArgument → q.TurnedAway)) := by
  have htrace : Ensures (s.serve q) st (fun _ _ => True)
      (fun _ st' => ¬q.Rotates → seen view st' = seen view st) := by
    by_cases hq : q.Rotates
    · exact Ensures.itself.mono (fun _ _ _ => trivial) fun _ _ _ hq' => absurd hq hq'
    · exact (serve_failsTraceless hs hq).mono (fun _ _ h => h) fun _ _ h _ => h
  refine (htrace.and (serve_blames q)).mono (fun _ _ _ => trivial) ?_
  rintro e st' ⟨hseen, hblames, -⟩
  exact ⟨hseen, fun he => Request.turnedAway (hblames.mp he)⟩

/-- **Failures leave no trace.** For all settings, all arguments and every state of either store, whatever
goes wrong with the store and whatever the random source delivers, where it fails, panics or never comes
to an end:

* to register, to log in, to log out and to end all sessions leaves both tables as they were, also those
  to which an open transaction would go back, and so does to look at a token;
* if an argument is what is blamed, the request has been turned away, whichever it is. -/
theorem failures_leave_no_trace :
    (∀ (s : TableService) (q : Request) (st : ServiceState Database),
      Ensures (s.service.serve q) st (fun _ _ => True) fun e st' =>
        (¬q.Rotates → st'.world.store.tables = st.world.store.tables
          ∧ st'.world.store.atStart = st.world.store.atStart)
        ∧ (e.BlamesArgument → q.TurnedAway))
    ∧ ∀ (signer : TokenSigner) (settings : AuthSettings) (q : Request)
        (st : ServiceState MemoryStore),
      Ensures ((memoryService signer settings).serve q) st (fun _ _ => True) fun e st' =>
        (¬q.Rotates → st'.world.store.users = st.world.store.users
          ∧ st'.world.store.sessions = st.world.store.sessions)
        ∧ (e.BlamesArgument → q.TurnedAway) := by
  refine ⟨fun s q st => ?_, fun signer settings q st => ?_⟩
  · have h := Service.serve_failed (s := s.service) (Relational.traceless s.lockTimeout) q st
    refine h.mono (fun _ _ h => h) ?_
    rintro e st' ⟨hseen, hblamed⟩
    exact ⟨fun hq => Prod.mk.inj (hseen hq), hblamed⟩
  · have h := Service.serve_failed (s := memoryService signer settings) MemoryStore.traceless q st
    refine h.mono (fun _ _ h => h) ?_
    rintro e st' ⟨hseen, hblamed⟩
    exact ⟨fun hq => Prod.mk.inj (hseen hq), hblamed⟩

/-! ### A silent database and a blank secret -/

/-- The service with one session, when its database has stopped to answer. -/
def silenced : ServiceState Database :=
  { lone with world := { lone.world with store := { lone.world.store with answers := false } } }

theorem failures_leave_no_trace_silent :
    (loneService.service.serve (.logoutAll loneRow.userId) silenced).1 = .error (.refused .internal)
      ∧ (loneService.service.serve (.logoutAll loneRow.userId) silenced).2.world.store.tables.sessions
          = [loneRow]
      ∧ ((memoryService ⟨[], "issuer"⟩ {}).serve (.refresh " " ⟨none, none⟩) freshMemory).1
          = .error (.refused (.invalidArgument "refresh_token required"))
      ∧ (Request.refresh " " ⟨none, none⟩).TurnedAway := by
  have hsilent : (loneService.service.serve (.logoutAll loneRow.userId) silenced).1
      = .error (.refused .internal) := by
    unfold silenced lone
    rfl
  have hblank : ((memoryService ⟨[], "issuer"⟩ {}).serve (.refresh " " ⟨none, none⟩) freshMemory).1
      = .error (.refused (.invalidArgument "refresh_token required")) := rfl
  have hsessions : silenced.world.store.tables.sessions = [loneRow] := by
    unfold silenced lone
    rfl
  have hkept := (failures_leave_no_trace.1 loneService (.logoutAll loneRow.userId) silenced).of_error
    hsilent
  have hblamed := (failures_leave_no_trace.2 ⟨[], "issuer"⟩ {} (.refresh " " ⟨none, none⟩)
    freshMemory).of_error hblank
  refine ⟨hsilent, ?_, hblank, hblamed.2 trivial⟩
  rw [(hkept.1 id).1]
  exact hsessions

end SessionAuth
