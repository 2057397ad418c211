import SessionAuth.Proofs.Http.Login
import SessionAuth.Proofs.Service.Faults
import SessionAuth.Proofs.Service.Resemble

/-!
Errors, as clients see them.

What a client is told of a failure is one of a few things, listed for each request, and depends on the
kind of the failure alone: the texts of errors inside do not reach the response (`errors_reveal_nothing`).
The second half is about two runs. They are followed through the service side by side, and from there
through the router, whose own texts are fixed and whose check of the database says nothing but that it
failed.
-/

set_option autoImplicit false

namespace SessionAuth

variable {σ σ' ε α : Type}

namespace Http

variable {R : σ → σ' → Prop}

/-! ## Responses side by side -/

theorem attempt_sideBySide {a : Serve σ ε α} {a' : Serve σ' ε α} (h : SideBySide R Eq a a') :
    SideBySide R Eq (attempt a) (attempt a') := fun st st' hst => attempt_agree (h st st' hst)

/-- What an action in the surroundings refuses may say something else on either side. -/
theorem attempt_act_sideBySide {alike : ε → ε → Prop} {a : Act σ ε α} {a' : Act σ' ε α}
    (h : CallsResemble R alike a a') :
    SideBySide R (ResultsAlike alike) (attempt (Serve.act a)) (attempt (Serve.act a')) := by
  intro st st' hst
  have ha : EndsAlike _ _ _ (a st.world) (a' st'.world) := h st.world st'.world hst.world
  unfold Agree attempt Serve.act
  generalize a st.world = r at ha
  generalize a' st'.world = r' at ha
  cases ha with
  | @value x x' w w' hx hw =>
    obtain rfl : x = x' := hx
    exact .value .ok ⟨hw, hst.pool, hst.dummyHash⟩
  | failure he hw =>
    cases he with
    | refused hfault => exact .value (.error hfault) ⟨hw, hst.pool, hst.dummyHash⟩
    | stalled => exact .failure rfl ⟨hw, hst.pool, hst.dummyHash⟩
    | panicked => exact .failure rfl ⟨hw, hst.pool, hst.dummyHash⟩

theorem respond_sideBySide {a : Serve σ AuthFault α} {a' : Serve σ' AuthFault α} (status : Nat)
    (data : α → Json.Value) (h : SideBySide R Eq a a') :
    SideBySide R Eq (respond status data a) (respond status data a') :=
  fun st st' hst => respond_agree (h st st' hst)

theorem withBody_sideBySide {τ : Type} {record : Json.Record τ α} {r : Request}
    {f : α → Answering σ Response} {f' : α → Answering σ' Response}
    (h : ∀ x, SideBySide R Eq (f x) (f' x)) :
    SideBySide R Eq (withBody record r f) (withBody record r f') :=
  fun st st' hst => withBody_agree rfl (fun x => h x st st' hst) hst

/-! ## The router -/

/-- **Checks of the database that resemble each other**: there is none on either side, or they differ in
what is said of a failure. -/
inductive PingsResemble (R : σ → σ' → Prop) :
    Option (Act σ String Unit) → Option (Act σ' String Unit) → Prop where
  | none : PingsResemble R none none
  | some {ping : Act σ String Unit} {ping' : Act σ' String Unit}
      (h : CallsResemble R (fun _ _ => True) ping ping') : PingsResemble R (some ping) (some ping')

/-- Services that resemble each other, with checks of their databases that do. -/
structure Api.Resembles (R : σ → σ' → Prop) (api : Api σ) (api' : Api σ') : Prop where
  service : api.service.Resembles R api'.service
  ping : PingsResemble R api.ping api'.ping

namespace Api.Resembles

variable {api : Api σ} {api' : Api σ'}

theorem health (h : api.Resembles R api') : SideBySide R Eq (health api) (health api') := by
  unfold Http.health
  have hping := h.ping
  generalize api.ping = ping at hping
  generalize api'.ping = ping' at hping
  cases hping with
  | none => exact SideBySide.pure rfl
  | some hping =>
    refine (attempt_act_sideBySide hping).bind ?_
    rintro _ _ (_ | _)
    · exact SideBySide.pure rfl
    · exact SideBySide.report_bind (SideBySide.pure rfl)

theorem caller (h : api.Resembles R api') (r : Request) :
    SideBySide R Eq (caller api r) (caller api' r) := by
  unfold Http.caller
  cases bearerToken r with
  | error message => exact SideBySide.pure rfl
  | ok token =>
    refine (attempt_sideBySide (h.service.validate token)).bind ?_
    rintro (fault | identity) _ rfl
    · exact SideBySide.report_bind (SideBySide.pure rfl)
    · dsimp only
      cases UserId.parse identity.userId with
      | ok userId => exact SideBySide.pure rfl
      | error flaw => exact SideBySide.report_bind (SideBySide.pure rfl)

theorem run (h : api.Resembles R api') (r : Request) (route : Route) :
    SideBySide R Eq (route.run api r) (route.run api' r) := by
  cases route with
  | health => exact h.health
  | register =>
    exact withBody_sideBySide fun c => respond_sideBySide _ _ (h.service.register c.email c.password)
  | login =>
    exact withBody_sideBySide fun c =>
      respond_sideBySide _ _ (h.service.login c.email c.password (clientOf r))
  | refresh =>
    exact withBody_sideBySide fun token =>
      respond_sideBySide _ _ (h.service.refresh token (clientOf r))
  | validate =>
    exact withBody_sideBySide fun token => respond_sideBySide _ _ (h.service.validate token)
  | logout =>
    exact withBody_sideBySide fun token => respond_sideBySide _ _ (h.service.logout token)
  | logoutAll =>
    refine (h.caller r).bind ?_
    rintro (response | userId) _ rfl
    · exact SideBySide.pure rfl
    · exact respond_sideBySide _ _ (h.service.logoutAll userId)

theorem wrongMethod (h : api.Resembles R api') (r : Request) (route : Route) :
    SideBySide R Eq (wrongMethod api r route) (wrongMethod api' r route) := by
  cases route with
  | logoutAll =>
    refine (h.caller r).bind ?_
    rintro (response | userId) _ rfl
    · exact SideBySide.pure rfl
    · exact SideBySide.pure rfl
  | _ => exact SideBySide.pure rfl

/-- **Every request is responded to the same.** -/
theorem handle (h : api.Resembles R api') (r : Request) :
    SideBySide R Eq (handle api r) (handle api' r) := by
  unfold Http.handle
  intro st st' hst
  refine Agree.ite (fun _ => SideBySide.pure rfl st st' hst) fun _ => ?_
  cases Route.paths.lookup r.path with
  | none => exact .pure rfl hst
  | some route =>
    dsimp only
    -- the response is the same on either side, with its body or without
    refine Agree.ite (fun _ => ?_) fun _ => ?_
    · refine (h.run r route).bind ?_ st st' hst
      rintro response _ rfl
      exact SideBySide.pure rfl
    · refine (h.wrongMethod r route).bind ?_ st st' hst
      rintro response _ rfl
      exact SideBySide.pure rfl

end Api.Resembles

end Http

/-! ## The whole -/

/-- **Errors reveal nothing of the inside.**

* Whatever a store does, the random source delivers and the pool makes of a password: if a request is
  refused, it is with a fault that is listed for it. All that is asked of the store is that it does not
  reject a secret where none is presented.
* Two stores that differ in what they say of a failure, and in nothing else, cannot be told apart: a
  request has the same outcome, and an HTTP request the same response. The states match again, so that
  this goes for one request after the other. -/
theorem errors_reveal_nothing :
    (∀ (σ : Type) (s : Service σ) (ready : σ → Prop), s.store.RejectsSecretsOnly ready →
      ∀ (q : Request) (st : ServiceState σ) (fault : AuthFault), ready st.world.store →
        (s.serve q st).1 = .error (.refused fault) → fault ∈ q.faults)
    ∧ ∀ (σ σ' : Type) (R : σ → σ' → Prop) (api : Http.Api σ) (api' : Http.Api σ'),
      api.Resembles R api' → ∀ (st : ServiceState σ) (st' : ServiceState σ'), st.Matches R st' →
        (∀ q : Request, (api.service.serve q st).1 = (api'.service.serve q st').1
          ∧ (api.service.serve q st).2.Matches R (api'.service.serve q st').2)
        ∧ ∀ r : Http.Request, (Http.handle api r st).1 = (Http.handle api' r st').1
          ∧ (Http.handle api r st).2.Matches R (Http.handle api' r st').2 := by
  refine ⟨?_, ?_⟩
  · intro σ s ready hstore q st fault hst hfault
    have hdocumented := Service.serve_documented hstore hst q
    unfold Ensures at hdocumented
    rcases hserve : s.serve q st with ⟨e | x, st'⟩ <;> rw [hserve] at hdocumented hfault
    · exact hdocumented fault (Except.error.inj hfault)
    · cases hfault
  · intro σ σ' R api api' happ st st' hst
    refine ⟨fun q => ?_, fun r => ?_⟩
    · exact (happ.service.serve q st st' hst).same
    · exact (happ.handle r st st' hst).same

/-! ### A store that is out of order -/

/-- A store in memory that cannot look up users, and says why. -/
def outOfOrder (reason : String) : MemoryStore :=
  { misbehaviours := { findUserByEmail := some (.fail (.database reason)) } }

theorem outOfOrder_matches (reason reason' : String) :
    (midway (outOfOrder reason)).Matches MemoryStore.Alike (midway (outOfOrder reason')) := by
  have halike : (outOfOrder reason).misbehaviours.Alike (outOfOrder reason').misbehaviours :=
    ⟨.calm, .fail .database, .calm, .calm, .calm, .calm⟩
  exact ⟨⟨rfl, rfl, _, rfl, halike⟩, rfl, rfl⟩

theorem errors_reveal_nothing_outOfOrder :
    (loneService.service.serve (.refresh "abc" ⟨none, none⟩) (midway spoiltTables)).1
        = .error (.refused .internal)
      ∧ AuthFault.internal ∈ (Request.refresh "abc" ⟨none, none⟩).faults
      ∧ (Http.handle ⟨memoryService ⟨[], "issuer"⟩ {}, none⟩ (loginOf "ada@example.com")
            (midway (outOfOrder "disk full"))).1
          = (Http.handle ⟨memoryService ⟨[], "issuer"⟩ {}, none⟩ (loginOf "ada@example.com")
            (midway (outOfOrder "no route to 10.0.0.7"))).1 := by
  have hrefused : (loneService.service.serve (.refresh "abc" ⟨none, none⟩) (midway spoiltTables)).1
      = .error (.refused .internal) := by rfl
  have happ : Http.Api.Resembles MemoryStore.Alike ⟨memoryService ⟨[], "issuer"⟩ {}, none⟩
      ⟨memoryService ⟨[], "issuer"⟩ {}, none⟩ := ⟨⟨MemoryStore.resembles, rfl, rfl⟩, .none⟩
  refine ⟨hrefused, ?_, ?_⟩
  · exact errors_reveal_nothing.1 Database loneService.service (fun _ => True)
      (Relational.rejectsSecretsOnly loneService.lockTimeout) _ _ _ trivial hrefused
  · exact ((errors_reveal_nothing.2 _ _ MemoryStore.Alike _ _ happ _ _
      (outOfOrder_matches "disk full" "no route to 10.0.0.7")).2 (loginOf "ada@example.com")).1

end SessionAuth
