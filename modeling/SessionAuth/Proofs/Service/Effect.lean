import SessionAuth.Proofs.Service.Parts
import SessionAuth.Proofs.Service.Run
import SessionAuth.Proofs.Store.Rotation

/-!
What each request does to the tables.

`Effect` lists it: one way for every kind of request that is answered, none at all where it is not,
and one more for a refresh whose tokens could not be signed after the rotation. `visit_effect` says
that the list is complete, under every circumstance. What a run does is then a matter of the list
alone.
-/

set_option autoImplicit false

namespace SessionAuth

open Database (Tables Within Committed RolledBack Condition)
open Relational (Rotates IsOpen)

/-! ## A database between requests -/

namespace Database

/-- **Ready for a request**: no transaction is open, and the database is faithful. -/
structure Ready (db : Database) : Prop where
  idle : db.atStart = none
  faithful : db.Faithful

theorem Ready.settled {db : Database} (h : db.Ready) : db.settled = db.tables := by
  unfold Database.settled
  rw [h.idle]
  rfl

theorem meet_ready (c : Condition) (db : Database) : (meet c db).Ready := by
  refine ⟨rfl, ?_⟩
  intro p hp
  obtain ⟨q, -, rfl⟩ := List.mem_map.mp hp
  cases q.2 with
  | refusal fault => exact Or.inr ⟨fault, rfl⟩
  | silence => exact Or.inl rfl

theorem meet_fair {c : Condition} {db : Database} (hanswers : c.answers = true)
    (hcalm : c.troubles = []) : (meet c db).Fair := by
  refine ⟨hanswers, ?_⟩
  show c.troubles.map _ = []
  rw [hcalm]
  rfl

theorem Within.settled {v w : World Database} (h : Within v w) (hv : v.store.Ready) :
    w.store.settled = w.store.tables := by
  unfold Database.settled
  rw [h.atStart, hv.idle]
  rfl

end Database

theorem Quiet.ready {st st' : ServiceState Database} (h : Quiet st st')
    (hst : st.world.store.Ready) : st'.world.store.Ready := by
  rw [h.store]
  exact hst

/-- The tables that a service goes by. -/
def ServiceState.tables (st : ServiceState Database) : Tables := st.world.store.settled

theorem Quiet.tables {st st' : ServiceState Database} (h : Quiet st st') : st'.tables = st.tables :=
  congrArg Database.settled h.store

/-- What has been left alone by a call of the store, seen from the service. -/
theorem unchanged_of_within {st st' : ServiceState Database} {w : World Database}
    (h : Within st.world w) (hst : st.world.store.Ready)
    (ht : w.store.tables = st.world.store.tables) (hw : st'.world.store = w.store) :
    st'.tables = st.tables := by
  rw [ServiceState.tables, hw, h.settled hst, ht, ← hst.settled]
  rfl

theorem tables_of_within {st : ServiceState Database} {w : World Database}
    (h : Within st.world w) (hst : st.world.store.Ready) :
    ServiceState.tables { st with world := w } = w.store.tables := h.settled hst

/-! ## Operations -/

/-- A text presents a secret: the secret is what it holds but for the white space around it. -/
def Presents (raw secret : String) : Prop := Service.required raw "refresh_token" = .ok secret

/-- A service on the tables of a database. -/
structure TableService where
  signer : TokenSigner
  settings : AuthSettings
  lockTimeout : Duration

namespace TableService

/-- The service. -/
def service (s : TableService) : Service Database where
  store := Relational.store s.lockTimeout
  signer := s.signer
  settings := s.settings

variable {s : TableService} {st : ServiceState Database}

/-- A user is registered by inserting the row. -/
theorem register_ensures {email password : String} (hst : st.world.store.Ready) :
    Ensures (s.service.register email password) st
      (fun u st' => st.tables.insertUser (.ofUser u) = .ok st'.tables)
      (fun _ st' => st'.tables = st.tables) := by
  refine Ensures.bind_mono Service.requireEmail_ensures (fun _ _ h => h.tables) ?_
  rintro address _ ⟨rfl, -⟩
  split
  · refine Ensures.bind_mono Serve.hash_quiet (fun _ _ h => h.tables) ?_
    rintro (fault | hash) st₁ h₁
    · exact Service.internal_ensures fun _ h => (h₁.trans h).tables
    refine Ensures.get_bind ?_
    refine Ensures.bind (Serve.draw_quiet.mono (fun _ _ h => h₁.trans h)
      fun _ _ h => (h₁.trans h).tables) ?_
    intro user st₂ h₂
    have hst₂ : st₂.world.store.Ready := h₂.ready hst
    rw [← h₂.tables]
    refine Ensures.bind_mono (Service.bounded_ensures
      (Relational.createUser_ensures user hst₂.faithful)) ?_ ?_
    · rintro e st₃ ⟨f, w, ⟨hin, ht⟩, hw, -⟩
      exact unchanged_of_within hin hst₂ ht hw
    · rintro r _ ⟨w, rfl, hr⟩
      split
      · obtain ⟨rfl, hin, ht⟩ := hr
        refine Serve.report_bind fun st₃ h₃ => ?_
        show st₂.tables.insertUser _ = .ok st₃.tables
        rw [h₃.tables, tables_of_within hin hst₂, ServiceState.tables, hst₂.settled]
        exact ht
      · exact Serve.report_bind fun st₃ h₃ => unchanged_of_within hr.1 hst₂ hr.2 h₃.store
      · exact Service.internal_ensures fun st₃ h₃ =>
          unchanged_of_within hr.1 hst₂ hr.2 h₃.store
  · rfl

/-- A session is opened by inserting the row for the secret that is handed out. -/
theorem openSession_ensures {user : User} {client : Client} (hst : st.world.store.Ready) :
    Ensures (s.service.openSession user client) st
      (fun tokens st' => tokens.userId = user.id
        ∧ ∃ id, st.tables.insertSession (.of id tokens.userId
            (RefreshSecret.digest tokens.refreshToken) tokens.refreshExpiresAt client none)
            st.world.now.floorMicros = .ok st'.tables)
      (fun _ st' => st'.tables = st.tables) := by
  refine Ensures.bind_mono Service.newRefreshSecret_ensures (fun _ _ h => h.1.tables) ?_
  rintro secret st₁ ⟨h₁, -⟩
  refine Ensures.bind_mono Service.expiryAfter_ensures (fun _ _ h => (h₁.trans h.1).tables) ?_
  rintro expires _ ⟨rfl, -⟩
  refine Ensures.bind_mono Service.issue_ensures (fun _ _ h => (h₁.trans h.1).tables) ?_
  rintro tokens _ ⟨rfl, huser, rfl, rfl, -⟩
  have hst₁ := h₁.ready hst
  rw [← h₁.tables, ← h₁.now]
  refine Ensures.bind_mono (Service.boundedSession_ensures
    (Relational.createSession_ensures hst₁.faithful)) ?_ ?_
  · rintro e st₂ ⟨f, w, ⟨hin, ht⟩, hw, -⟩
    exact unchanged_of_within hin hst₁ ht hw
  · rintro id _ ⟨w, rfl, hin, ht⟩
    refine Serve.report_bind fun st₂ h₂ => ⟨huser, id, ?_⟩
    rw [h₂.tables, tables_of_within hin hst₁, ServiceState.tables, hst₁.settled, huser]
    exact ht

/-- A user is logged in by opening a session. -/
theorem login_ensures {email password : String} {client : Client}
    (hst : st.world.store.Ready) :
    Ensures (s.service.login email password client) st
      (fun tokens st' => ∃ id, st.tables.insertSession (.of id tokens.userId
          (RefreshSecret.digest tokens.refreshToken) tokens.refreshExpiresAt client none)
          st.world.now.floorMicros = .ok st'.tables)
      (fun _ st' => st'.tables = st.tables) := by
  refine Ensures.bind_mono Service.requireEmail_ensures (fun _ _ h => h.tables) ?_
  rintro address st₀ ⟨rfl, -⟩
  show Ensures (if password.isEmpty then _ else _) _ _ _
  split
  · rfl
  refine Ensures.bind_mono (Service.bounded_ensures
    (Relational.findUserByEmail_ensures hst.faithful)) ?_ ?_
  · rintro e st₁ ⟨f, w, ⟨hin, ht⟩, hw, -⟩
    exact unchanged_of_within hin hst ht hw
  rintro (fault | user?) _ ⟨w, rfl, hr⟩
  · exact Service.internal_ensures fun st₁ h₁ => unchanged_of_within hr.1 hst hr.2 h₁.store
  obtain ⟨hin, ht, -⟩ := hr
  -- looking the user up has left the tables alone, whoever was found
  have hst₁ : w.store.Ready := ⟨hin.atStart.trans hst.idle, hin.faithful hst.faithful⟩
  have hsame : ServiceState.tables { st₀ with world := w } = st₀.tables :=
    unchanged_of_within hin hst ht rfl
  rw [← hsame, ← hin.now]
  cases user? with
  | none =>
    refine Ensures.bind_mono Service.equalizeUnknownUser_quiet
      (fun _ _ h => h.tables) fun _ st₂ h₂ => ?_
    exact Serve.report_bind fun st₃ h₃ => (h₂.trans h₃).tables
  | some user =>
    refine Ensures.bind_mono Service.authenticate_ensures (fun _ _ h => h.tables) ?_
    rintro _ st₂ ⟨h₂, -⟩
    rw [← h₂.tables, ← h₂.now]
    exact (openSession_ensures (h₂.ready hst₁)).mono (fun _ _ h => h.2) fun _ _ h => h

/-- A session is replaced by a rotation. The tokens are signed behind it: where they cannot be, because
the access lifetime leads to no date, the rotation has been written all the same. -/
theorem refresh_ensures {raw : String} {client : Client} (hst : st.world.store.Ready) :
    Ensures (s.service.refresh raw client) st
      (fun tokens st' => ∃ secret old r, Presents raw secret ∧ tokens.userId = r.user.id
        ∧ Rotates st.tables st.world.now secret tokens.refreshToken tokens.refreshExpiresAt client
            old r st'.tables)
      (fun _ st' => st'.tables = st.tables
        ∨ st.world.now.after? s.settings.accessLifetime = none
          ∧ ∃ secret newSecret expires old r, Presents raw secret
            ∧ Rotates st.tables st.world.now secret newSecret expires client old r
                st'.tables) := by
  refine Ensures.bind_mono Service.requireArgument_ensures ?_ ?_
  · rintro _ st₀ rfl
    exact Or.inl rfl
  rintro secret st₀ ⟨rfl, hsecret⟩
  refine Ensures.bind_mono Service.newRefreshSecret_ensures (fun _ _ h => Or.inl h.1.tables) ?_
  rintro newSecret st₁ ⟨h₁, -⟩
  refine Ensures.bind_mono Service.expiryAfter_ensures
    (fun _ _ h => Or.inl (h₁.trans h.1).tables) ?_
  rintro expires st₁ ⟨rfl, -⟩
  have hst₁ := h₁.ready hst
  rw [← h₁.tables, ← h₁.now]
  refine Ensures.bind_mono (Service.boundedSession_ensures
    (Relational.rotateSession_ensures hst₁.idle hst₁.faithful)) ?_ ?_
  · rintro e st₂ ⟨f, w, hw, hst₂, -⟩
    refine Or.inl ?_
    rw [ServiceState.tables, hst₂, hw.settled, ← hst₁.settled]
    rfl
  rintro r _ ⟨w, rfl, ⟨⟨old, hrot⟩, hnow⟩, hw⟩
  have htables : ServiceState.tables { st₁ with world := w } = w.store.tables := hw.settled
  -- the rotation is told between the tables inside the store; from here on the service's are meant
  rw [← hst₁.settled, ← htables] at hrot
  refine Serve.report_bind fun st₂ h₂ => ?_
  rw [← h₂.tables] at hrot
  refine Service.issue_ensures.mono ?_ ?_
  · rintro tokens st₃ ⟨rfl, huser, rfl, rfl, -⟩
    exact ⟨secret, old, r, hsecret, huser, hrot⟩
  · rintro e st₃ ⟨h₃, hdate⟩
    rw [← h₃.tables] at hrot
    rw [h₂.now] at hdate
    exact Or.inr ⟨hnow ▸ hdate, secret, newSecret, expires, old, r, hsecret, hrot⟩

/-- Looking at an access token leaves the tables alone. -/
theorem validate_ensures {raw : String} :
    Ensures (s.service.validate raw) st (fun _ st' => st'.tables = st.tables)
      (fun _ st' => st'.tables = st.tables) := by
  refine Ensures.bind_mono Service.requireArgument_ensures ?_ ?_
  · rintro _ st₀ rfl
    rfl
  rintro token st₀ ⟨rfl, -⟩
  refine Ensures.get_bind ?_
  split
  · rfl
  · rfl
  · exact Serve.report_bind fun _ h => h.tables

/-- A session is ended by revoking the rows of its secret. -/
theorem logout_ensures {raw : String} (hst : st.world.store.Ready) :
    Ensures (s.service.logout raw) st
      (fun _ st' => ∃ secret, Presents raw secret ∧ IsOpen st.tables secret
        ∧ st'.tables = (st.tables.revoke (·.digest == RefreshSecret.digest secret)
            st.world.now.floorMicros).2)
      (fun _ st' => st'.tables = st.tables) := by
  refine Ensures.bind_mono Service.requireArgument_ensures ?_ ?_
  · rintro _ st₀ rfl
    rfl
  rintro secret st₀ ⟨rfl, hsecret⟩
  refine Ensures.bind_mono (Service.boundedSession_ensures
    (Relational.revokeSession_ensures hst.faithful)) ?_ ?_
  · rintro e st₁ ⟨f, w, ⟨hin, ht⟩, hw, -⟩
    exact unchanged_of_within hin hst ht hw
  rintro _ _ ⟨w, rfl, hopen, hin, ht⟩
  rw [← hst.settled] at hopen
  refine Serve.report_ensures fun st₁ h₁ => ⟨secret, hsecret, hopen, ?_⟩
  rw [h₁.tables, tables_of_within hin hst, ht, ServiceState.tables, hst.settled]

/-- The sessions of a user are ended by revoking their rows. -/
theorem logoutAll_ensures {user : UserId} (hst : st.world.store.Ready) :
    Ensures (s.service.logoutAll user) st
      (fun n st' => st.tables.revoke (·.userId == user) st.world.now.floorMicros
        = (⟨[], n⟩, st'.tables))
      (fun _ st' => st'.tables = st.tables) := by
  refine Ensures.bind_mono (Service.boundedSession_ensures
    (Relational.revokeAllSessions_ensures hst.faithful)) ?_ ?_
  · rintro e st₁ ⟨f, w, ⟨hin, ht⟩, hw, -⟩
    exact unchanged_of_within hin hst ht hw
  rintro n _ ⟨w, rfl, hin, ht⟩
  refine Serve.report_bind fun st₁ h₁ => ?_
  show _ = (_, ServiceState.tables st₁)
  rw [h₁.tables, tables_of_within hin hst, ServiceState.tables, hst.settled]
  exact ht

end TableService

/-! ## Requests -/

/-- **What an exchange does to the tables.** The moments at which rows are written do not matter here,
nor do the requests that are refused. -/
inductive Effect (t : Tables) : Exchange → Tables → Prop where
  | refused {q : Request} {e : Failure AuthFault} : Effect t ⟨q, .error e⟩ t
  | registered {email password : String} {u : User} {t' : Tables}
      (h : t.insertUser (.ofUser u) = .ok t') :
      Effect t ⟨.register email password, .ok u⟩ t'
  | loggedIn {email password : String} {client : Client} {tokens : IssuedTokens} {id : SessionId}
      {now : Instant} {t' : Tables}
      (h : t.insertSession (.of id tokens.userId (RefreshSecret.digest tokens.refreshToken)
        tokens.refreshExpiresAt client none) now = .ok t') :
      Effect t ⟨.login email password client, .ok tokens⟩ t'
  | refreshed {raw secret : String} {client : Client} {tokens : IssuedTokens}
      {old : Database.SessionRow} {r : RotatedSession} {now : Instant} {t' : Tables}
      (hsecret : Presents raw secret)
      (h : Rotates t now secret tokens.refreshToken tokens.refreshExpiresAt client old r t') :
      Effect t ⟨.refresh raw client, .ok tokens⟩ t'
  /-- A session is replaced, and nobody gets to know the new secret. -/
  | lost {raw secret newSecret : String} {expires : Instant} {client : Client}
      {old : Database.SessionRow} {r : RotatedSession} {now : Instant} {t' : Tables}
      {e : Failure AuthFault} (hsecret : Presents raw secret)
      (h : Rotates t now secret newSecret expires client old r t') :
      Effect t ⟨.refresh raw client, .error e⟩ t'
  | validated {raw : String} {identity : TokenIdentity} :
      Effect t ⟨.validate raw, .ok identity⟩ t
  | loggedOut {raw secret : String} {now : Instant}
      (hsecret : Presents raw secret) (hopen : IsOpen t secret) :
      Effect t ⟨.logout raw, .ok ()⟩
        (t.revoke (·.digest == RefreshSecret.digest secret) now).2
  | loggedOutAll {user : UserId} {now : Instant} {n : Nat} :
      Effect t ⟨.logoutAll user, .ok n⟩ (t.revoke (·.userId == user) now).2

namespace TableService

variable {s : TableService} {st : ServiceState Database}

/-- Serves a request in its circumstances. -/
def visit (s : TableService) (o : Occasion Condition) (st : ServiceState Database) :
    Exchange × ServiceState Database := s.service.visit Database.meet o st

/-- Serves one request after the other. -/
def run (s : TableService) (l : List (Occasion Condition)) (st : ServiceState Database) :
    List Exchange × ServiceState Database := s.service.run Database.meet l st

theorem serve_effect (q : Request) (hst : st.world.store.Ready) :
    Ensures (s.service.serve q) st (fun x st' => Effect st.tables ⟨q, .ok x⟩ st'.tables)
      (fun e st' => Effect st.tables ⟨q, .error e⟩ st'.tables) := by
  have hsame : ∀ (e : Failure AuthFault) (st' : ServiceState Database), st'.tables = st.tables →
      Effect st.tables ⟨q, .error e⟩ st'.tables := by
    intro e st' h
    rw [h]
    exact .refused
  cases q with
  | register email password =>
    exact (register_ensures hst).mono (fun _ _ h => .registered h) hsame
  | login email password client =>
    exact (login_ensures hst).mono (fun _ _ ⟨_, h⟩ => .loggedIn h) hsame
  | refresh raw client =>
    refine (refresh_ensures hst).mono (fun _ _ ⟨_, _, _, hsecret, _, h⟩ => .refreshed hsecret h) ?_
    rintro e st' (h | ⟨-, secret, newSecret, expires, old, r, hsecret, h⟩)
    · exact hsame e st' h
    · exact .lost hsecret h
  | validate raw =>
    refine validate_ensures.mono (fun _ st' h => ?_) hsame
    rw [h]
    exact .validated
  | logout raw =>
    refine (logout_ensures hst).mono ?_ hsame
    rintro _ st' ⟨secret, hsecret, hopen, h⟩
    rw [h]
    exact .loggedOut hsecret hopen
  | logoutAll user =>
    refine (logoutAll_ensures hst).mono (fun n st' h => ?_) hsame
    have ht : (st.tables.revoke (·.userId == user) st.world.now.floorMicros).2 = st'.tables :=
      congrArg Prod.snd h
    rw [← ht]
    exact .loggedOutAll

/-- **No request does anything else**, whatever the circumstances. -/
theorem visit_effect (o : Occasion Condition) (st : ServiceState Database) :
    Effect st.tables (s.visit o st).1 (s.visit o st).2.tables := by
  have h : Ensures (s.service.serve o.request) (st.meet Database.meet o) _ _ :=
    serve_effect o.request (Database.meet_ready o.condition st.world.store)
  exact Service.visit_ending (P := fun x (st' : ServiceState Database) =>
    Effect st.tables x st'.tables) rfl h

/-- **What every exchange keeps, a run keeps**: of the exchanges so far and the tables. -/
theorem run_induction {P : List Exchange → Tables → Prop}
    (hstep : ∀ xs t x t', P xs t → Effect t x t' → P (xs ++ [x]) t')
    (l : List (Occasion Condition)) (xs : List Exchange) (st : ServiceState Database)
    (h : P xs st.tables) : P (xs ++ (s.run l st).1) (s.run l st).2.tables :=
  Service.run_induction (s := s.service) (P := fun xs st => P xs st.tables)
    (fun xs o st h => hstep xs _ _ _ h (s.visit_effect o st)) l xs st h

end TableService

end SessionAuth
