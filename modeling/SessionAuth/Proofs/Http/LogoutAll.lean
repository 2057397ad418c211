import SessionAuth.Proofs.Http.Bearer

/-!
Ending all sessions of a user over HTTP.

Only the user whose token a request bears can have all sessions ended, and only the user's own ones: what
is written is known to the last field (`logout_all_needs_bearer`). For anybody else there is a refusal,
which is the same whatever the store is, since the store is not asked.
-/

set_option autoImplicit false

namespace SessionAuth

open Database (Condition SessionRow)

variable {σ τ : Type}

/-! ## Open sessions of a user -/

/-- Whether a row is an open session of a user. -/
def Database.SessionRow.isOpenOf (u : UserId) (row : SessionRow) : Bool :=
  row.userId == u && row.revokedAt.isNone

/-- Whether a session in memory is an open one of a user. -/
def Session.isOpenOf (u : UserId) (a : Session) : Bool := a.userId == u && a.revokedAt.isNone

/-- A row behind the end of all sessions of a user: revoked, if it was one of the open ones. -/
def Database.SessionRow.endedFor (u : UserId) (moment : Instant) (row : SessionRow) : SessionRow :=
  if row.isOpenOf u then { row with revokedAt := some moment } else row

/-- The same for a session in memory. -/
def Session.endedFor (u : UserId) (moment : Instant) (a : Session) : Session :=
  if a.isOpenOf u then { a with revokedAt := some moment } else a

/-- A fair database revokes the open sessions of a user, counts them and does nothing else. -/
theorem Relational.revokeAllSessions_done {w : World Database} {u : UserId} (hw : w.store.Fair) :
    Ensures (revokeAllSessions u) w
      (fun n w' => n = w.store.tables.sessions.countP (SessionRow.isOpenOf u)
        ∧ w' = { w with store := { w.store with
          tables := { w.store.tables with
            sessions := w.store.tables.sessions.map (SessionRow.endedFor u w.now.floorMicros) }
          log := w.store.log ++ [.revokeByUser u] } })
      (fun _ _ => False) := by
  have hboundary : (Database.Statement.revokeByUser u).isBoundary = false := rfl
  refine Ensures.bind (Database.mapFault_ensures (Database.execute_fair_ensures hw
    ((Database.perform_ensures hboundary).mono (fun _ _ h => h) ?_))) ?_
  · -- revoking is nothing that the tables could refuse
    rintro _ _ ⟨-, fault, hrun, -⟩
    cases hrun
  · rintro o _ ⟨t, hrun, rfl⟩
    obtain ⟨rfl, rfl⟩ := Prod.mk.inj (Except.ok.inj hrun)
    exact ⟨rfl, rfl⟩

/-- So does a store in memory that is not told to misbehave. -/
theorem MemoryStore.revokeAllSessions_done {w : World MemoryStore} {u : UserId}
    (hcalm : w.store.misbehaviours.revokeAllSessions = none) :
    Ensures (store.revokeAllSessions u) w
      (fun n w' => n = w.store.sessions.countP (Session.isOpenOf u)
        ∧ w' = { w with store := { w.store with
          sessions := w.store.sessions.map (Session.endedFor u w.now)
          calls := w.store.calls ++ [.revokeAllSessions u] } })
      (fun _ _ => False) :=
  answering_calm hcalm (Act.store_bind (Act.now_bind (Act.modifyStore_bind ⟨rfl, rfl⟩)))

/-- The service adds nothing to what the store does but a report. -/
theorem Service.logoutAll_done {s : Service σ} {st : ServiceState σ} {u : UserId}
    {P : Nat → World σ → Prop}
    (h : Ensures (s.store.revokeAllSessions u) st.world P fun _ _ => False) :
    Ensures (s.logoutAll u) st
      (fun n st' => ∃ w, P n w ∧ ({ st with world := w } : ServiceState σ).Reports st')
      (fun _ _ => False) := by
  refine Ensures.bind_mono (boundedSession_ensures h) ?_ ?_
  · rintro _ _ ⟨_, _, hfalse, -⟩
    exact hfalse
  · rintro n _ ⟨w, rfl, hP⟩
    apply Serve.report_reports
    intro st' hreports
    exact ⟨w, hP, hreports⟩

/-! ## The route -/

namespace Http

variable {api : Api σ} {st : ServiceState σ} {r : Request} {u : UserId}

/-- **A request to end all sessions**, with any headers and any body. -/
structure Request.IsLogoutAll (r : Request) : Prop where
  method : r.method = "POST"
  path : r.path = "/api/auth/logout-all"

theorem handle_logoutAll (hr : r.IsLogoutAll) : handle api r = Route.run api r .logoutAll := by
  have hroute : Route.paths.lookup r.path = some .logoutAll := by
    rw [hr.path]
    decide
  exact handle_post hr.method hroute (by decide)

/-- The response that counts the sessions that have been ended. -/
def revokedResponse (n : Nat) : Response := envelope 200 (.object [("revoked_sessions", .nat n)])

/-- A user who is identified gets the sessions ended, if the store answers. -/
theorem handle_identified {P : Nat → World σ → Prop} (hr : r.IsLogoutAll)
    (hu : api.Identifies st r u)
    (h : Ensures (api.service.store.revokeAllSessions u) st.world P fun _ _ => False) :
    ∃ n w, P n w ∧ ∃ events, handle api r st
      = (.ok (revokedResponse n), { st with world := { w with events } }) := by
  have hrun : Ensures (handle api r) st
      (fun response st' => ∃ n w, P n w ∧ response = revokedResponse n
        ∧ ({ st with world := w } : ServiceState σ).Reports st')
      (fun _ _ => False) := by
    rw [handle_logoutAll hr]
    refine Ensures.bind (caller_identified hu) ?_
    rintro _ st₁ ⟨rfl, rfl⟩
    refine respond_ensures ((Service.logoutAll_done h).mono ?_ fun _ _ h => h.elim)
    rintro n st' ⟨w, hP, hreports⟩
    exact ⟨n, w, hP, rfl, hreports⟩
  obtain ⟨_, hresponse, n, w, hP, rfl, events, hst⟩ := hrun.exists_ok
  exact ⟨n, w, hP, events, Prod.ext hresponse hst⟩

/-- Where nobody is identified, there is a refusal, and it does not depend on the store. -/
theorem handle_unidentified (hr : r.IsLogoutAll) (hclock : Instant.epoch ≤ st.world.now)
    (h : ∀ u, ¬api.Identifies st r u) :
    ∃ message ∈ bearerRefusals, ∃ events, ∀ other : Store σ, handle (api.on other) r st
      = (.ok (unauthorized message), { st with world := { st.world with events } }) := by
  obtain ⟨_, hcaller, ⟨message, hmessage, rfl⟩, events, hst⟩ := (caller_unidentified hclock h).exists_ok
  refine ⟨message, hmessage, events, fun other => ?_⟩
  -- who the caller is does not depend on the store
  have hsame : caller (api.on other) r st = caller api r st := rfl
  have hrefused : caller api r st = (.ok (.error (unauthorized message)), _) :=
    Prod.ext hcaller hst
  rw [handle_logoutAll hr]
  show (caller (api.on other) r >>= _) st = _
  rw [bind_apply, hsame, hrefused]
  rfl

end Http

/-! ## The whole -/

/-- **Whoever is issued an access token is identified by it**: on whichever occasion it is issued, each
request whose first authorization header is the token behind the name of the scheme identifies the user
whom the token was issued for, in every state with a clock between 1970 and the second of the expiry. -/
def Service.TokensIdentify (s : Service σ) (change : τ → σ → σ) : Prop :=
  ∀ (o : Occasion τ) (st : ServiceState σ) (tokens : IssuedTokens),
    (s.visit change o st).1.issued? = some tokens →
    ∃ accessEnd, o.now.after? s.settings.accessLifetime = some accessEnd
      ∧ ∀ (ping : Option (Act σ String Unit)) (st' : ServiceState σ) (r : Http.Request),
        r.header? "authorization" = some (Utf8.ofString ("Bearer " ++ tokens.accessToken)) →
        Instant.epoch ≤ st'.world.now → st'.world.now.seconds < accessEnd.seconds →
        Http.Api.Identifies ⟨s, ping⟩ st' r tokens.userId

/-- So it is for every store that records the sessions tokens are issued for. -/
theorem Store.Records.tokensIdentify {V : Type} {s : Service σ} {change : τ → σ → σ}
    {ready : σ → Prop} {view : σ → V} {holds : V → User → Prop}
    {adds : V → UserId → String → Instant → Client → V → Prop}
    (h : s.store.Records change ready view holds adds) : s.TokensIdentify change := by
  intro o st tokens htokens
  obtain ⟨client, user, accessEnd, -, -, hfor, -⟩ := h.visit o st htokens
  refine ⟨accessEnd, hfor.accessEnd_eq, ?_⟩
  intro ping st' r hheader hclock hfresh
  exact Http.identifies_issued hfor hheader hclock hfresh

/-- **All sessions are ended for their bearer, and for nobody else.**

* A request that identifies nobody is refused as unauthorized. Nothing changes but the events, and the
  outcome is the same with every other store: the store is not asked.
* A request that identifies a user is answered with the number of the user's open sessions. These are
  revoked now, in memory to the nanosecond and on the tables to the microsecond, and nothing else changes
  but the events and the record of the one call.
* The access tokens of logins and refreshes identify the user they were issued for. -/
theorem logout_all_needs_bearer :
    (∀ (σ : Type) (api : Http.Api σ) (st : ServiceState σ) (r : Http.Request), r.IsLogoutAll →
      Instant.epoch ≤ st.world.now → (∀ u, ¬api.Identifies st r u) →
      ∃ message ∈ Http.bearerRefusals, ∃ events, ∀ other : Store σ,
        Http.handle (api.on other) r st
          = (.ok (Http.unauthorized message), { st with world := { st.world with events } }))
    ∧ (∀ (s : TableService) (ping : Option (Act Database String Unit)) (st : ServiceState Database)
        (r : Http.Request) (u : UserId), r.IsLogoutAll → st.world.store.Fair →
      Http.Api.Identifies ⟨s.service, ping⟩ st r u →
      let db := st.world.store
      ∃ events, Http.handle ⟨s.service, ping⟩ r st
        = (.ok (Http.revokedResponse (db.tables.sessions.countP (SessionRow.isOpenOf u))),
          { st with world := { st.world with
            events
            store := { db with
              tables := { db.tables with
                sessions := db.tables.sessions.map (SessionRow.endedFor u st.world.now.floorMicros) }
              log := db.log ++ [.revokeByUser u] } } }))
    ∧ (∀ (signer : TokenSigner) (settings : AuthSettings) (ping : Option (Act MemoryStore String Unit))
        (st : ServiceState MemoryStore) (r : Http.Request) (u : UserId), r.IsLogoutAll →
      st.world.store.misbehaviours.revokeAllSessions = none →
      Http.Api.Identifies ⟨memoryService signer settings, ping⟩ st r u →
      let m := st.world.store
      ∃ events, Http.handle ⟨memoryService signer settings, ping⟩ r st
        = (.ok (Http.revokedResponse (m.sessions.countP (Session.isOpenOf u))),
          { st with world := { st.world with
            events
            store := { m with
              sessions := m.sessions.map (Session.endedFor u st.world.now)
              calls := m.calls ++ [.revokeAllSessions u] } } }))
    ∧ (∀ s : TableService, s.service.TokensIdentify Database.meet)
    ∧ ∀ (signer : TokenSigner) (settings : AuthSettings),
      (memoryService signer settings).TokensIdentify MemoryStore.meet := by
  refine ⟨?_, ?_, ?_, ?_, ?_⟩
  · intro σ api st r hr hclock hnobody
    exact Http.handle_unidentified hr hclock hnobody
  · intro s ping st r u hr hfair hu
    obtain ⟨_, _, ⟨rfl, rfl⟩, events, hhandle⟩ :=
      Http.handle_identified hr hu (Relational.revokeAllSessions_done hfair)
    exact ⟨events, hhandle⟩
  · intro signer settings ping st r u hr hcalm hu
    obtain ⟨_, _, ⟨rfl, rfl⟩, events, hhandle⟩ :=
      Http.handle_identified hr hu (MemoryStore.revokeAllSessions_done hcalm)
    exact ⟨events, hhandle⟩
  · intro s
    exact Store.Records.tokensIdentify (s := s.service) (Relational.records s.lockTimeout)
  · intro signer settings
    exact Store.Records.tokensIdentify (s := memoryService signer settings) MemoryStore.records

/-! ### Somebody who comes back and leaves for good -/

/-- A request to end all sessions, with a header or without one. -/
def leavingEverywhere (bearer : Option Bytes) : Http.Request where
  method := "POST"
  target := "/api/auth/logout-all?everywhere"
  headers := ("Accept", Utf8.ofString "*/*") :: (bearer.map fun value => ("Authorization", value)).toList
  body := ""
  peer := none

theorem leavingEverywhere_isLogoutAll (bearer : Option Bytes) : (leavingEverywhere bearer).IsLogoutAll := by
  have hpath : Http.Request.path ⟨"POST", "/api/auth/logout-all?everywhere", [], "", none⟩
      = "/api/auth/logout-all" := by decide
  exact ⟨rfl, hpath⟩

theorem leavingEverywhere_header? (value : Bytes) :
    (leavingEverywhere (some value)).header? "authorization" = some value := by
  have hother : ¬(Http.foldCase "Accept" == Http.foldCase "authorization") = true := by decide
  have hnamed : (Http.foldCase "Authorization" == Http.foldCase "authorization") = true := by decide
  show (List.find? _ [("Accept", Utf8.ofString "*/*"), ("Authorization", value)]).map _ = _
  rw [List.find?_cons, List.find?_cons]
  simp only [hother, hnamed]
  rfl

/-- Such a request that bears a token. -/
def leavingWith (tokens : IssuedTokens) : Http.Request :=
  leavingEverywhere (some (Utf8.ofString ("Bearer " ++ tokens.accessToken)))

/-- Nobody is identified by a request without a header. -/
theorem leavingEverywhere_anonymous (api : Http.Api σ) (st : ServiceState σ) (u : UserId) :
    ¬api.Identifies st (leavingEverywhere none) u := by
  have hnone : (leavingEverywhere none).header? "authorization" = none := by decide
  rintro ⟨token, identity, ⟨value, hvalue, -⟩, -⟩
  rw [hnone] at hvalue
  cases hvalue

theorem logout_all_needs_bearer_renewed :
    (∃ tokens, (loneService.visit (renewing "old" {}) atHome).1.issued? = some tokens
      ∧ (Http.handle ⟨loneService.service, none⟩ (leavingWith tokens)
          (loneService.visit (renewing "old" {}) atHome).2).1 = .ok (Http.revokedResponse 1))
    ∧ (∃ tokens, ((memoryService ⟨[], "issuer"⟩ {}).visit MemoryStore.meet (renewing "abc" {})
          beforeLoss).1.issued? = some tokens
      ∧ (Http.handle ⟨memoryService ⟨[], "issuer"⟩ {}, none⟩ (leavingWith tokens)
          ((memoryService ⟨[], "issuer"⟩ {}).visit MemoryStore.meet (renewing "abc" {})
            beforeLoss).2).1 = .ok (Http.revokedResponse 1))
    ∧ ∃ message ∈ Http.bearerRefusals,
        (Http.handle ⟨loneService.service, none⟩ (leavingEverywhere none) atHome).1
          = .ok (Http.unauthorized message) := by
  have hends : (Instant.ofSeconds 30).after? ({} : AuthSettings).accessLifetime
      = some (.ofSeconds 930) := by decide +kernel
  refine ⟨?_, ?_, ?_⟩
  · -- on the tables: the row that was rotated is closed, and the one behind it is open
    have hnow : (loneService.visit (renewing "old" {}) atHome).2.world.now = .ofSeconds 30 := by
      decide +kernel
    have hfair : (loneService.visit (renewing "old" {}) atHome).2.world.store.Fair :=
      ⟨by decide +kernel, by decide +kernel⟩
    have hcount : (loneService.visit (renewing "old" {}) atHome).2.world.store.tables.sessions.countP
        (SessionRow.isOpenOf Relational.tenantRow.id) = 1 := by decide +kernel
    obtain ⟨tokens, htokens, howner⟩ := Option.map_eq_some_iff.mp atHome_issued
    obtain ⟨accessEnd, haccess, hidentify⟩ :=
      logout_all_needs_bearer.2.2.2.1 loneService (renewing "old" {}) atHome tokens htokens
    obtain rfl : .ofSeconds 930 = accessEnd := Option.some.inj (hends.symm.trans haccess)
    have hu := hidentify none (loneService.visit (renewing "old" {}) atHome).2 (leavingWith tokens)
      (leavingEverywhere_header? _) (by rw [hnow]; decide) (by rw [hnow]; decide)
    obtain ⟨events, hhandle⟩ := logout_all_needs_bearer.2.1 loneService none _ (leavingWith tokens)
      tokens.userId (leavingEverywhere_isLogoutAll _) hfair hu
    rw [howner, hcount] at hhandle
    exact ⟨tokens, htokens, congrArg Prod.fst hhandle⟩
  · have hissued : ((memoryService ⟨[], "issuer"⟩ {}).visit MemoryStore.meet (renewing "abc" {})
        beforeLoss).1.issued?.map (·.userId) = some loser.id := by decide +kernel
    have hnow : ((memoryService ⟨[], "issuer"⟩ {}).visit MemoryStore.meet (renewing "abc" {})
        beforeLoss).2.world.now = .ofSeconds 30 := by decide +kernel
    have hcalm : ((memoryService ⟨[], "issuer"⟩ {}).visit MemoryStore.meet (renewing "abc" {})
        beforeLoss).2.world.store.misbehaviours.revokeAllSessions = none := by decide +kernel
    have hcount : ((memoryService ⟨[], "issuer"⟩ {}).visit MemoryStore.meet (renewing "abc" {})
        beforeLoss).2.world.store.sessions.countP (Session.isOpenOf loser.id) = 1 := by
      decide +kernel
    obtain ⟨tokens, htokens, howner⟩ := Option.map_eq_some_iff.mp hissued
    obtain ⟨accessEnd, haccess, hidentify⟩ :=
      logout_all_needs_bearer.2.2.2.2 ⟨[], "issuer"⟩ {} (renewing "abc" {}) beforeLoss tokens htokens
    obtain rfl : .ofSeconds 930 = accessEnd := Option.some.inj (hends.symm.trans haccess)
    have hu := hidentify none ((memoryService ⟨[], "issuer"⟩ {}).visit MemoryStore.meet
      (renewing "abc" {}) beforeLoss).2 (leavingWith tokens) (leavingEverywhere_header? _)
      (by rw [hnow]; decide) (by rw [hnow]; decide)
    obtain ⟨events, hhandle⟩ := logout_all_needs_bearer.2.2.1 ⟨[], "issuer"⟩ {} none _
      (leavingWith tokens) tokens.userId (leavingEverywhere_isLogoutAll _) hcalm hu
    rw [howner, hcount] at hhandle
    exact ⟨tokens, htokens, congrArg Prod.fst hhandle⟩
  · obtain ⟨message, hmessage, events, hhandle⟩ := logout_all_needs_bearer.1 Database
      ⟨loneService.service, none⟩ atHome (leavingEverywhere none) (leavingEverywhere_isLogoutAll _)
      (by decide +kernel) (leavingEverywhere_anonymous _ _)
    exact ⟨message, hmessage, congrArg Prod.fst (hhandle (Relational.store loneService.lockTimeout))⟩

end SessionAuth
