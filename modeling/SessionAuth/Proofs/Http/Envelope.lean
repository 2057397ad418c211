import SessionAuth.Proofs.Http.Login
import SessionAuth.Proofs.Service.Arguments

/-!
Which responses come in the envelope.

Every response that a route makes itself does, whatever becomes of the request, and its status is one
of those that clients are told of. A body that cannot be read is refused before the route sees it, in
plain text: so a response is in the envelope exactly if the body of the request can be read, and a status
of 400 stands for malformed arguments only among these (`answers_enveloped_where_read`).
-/

set_option autoImplicit false

namespace SessionAuth

variable {σ ε α : Type} {st : ServiceState σ}

/-! ## Requests that have been done -/

/-- The status of a request that has been done. -/
def Request.doneStatus : Request → Nat
  | .register _ _ => 201
  | _ => 200

/-- What is sent back of a request that has been done. -/
def Request.doneData : (q : Request) → q.Answer → Json.Value
  | .register _ _ => Http.userData
  | .login _ _ _ | .refresh _ _ => Http.tokenData
  | .validate _ => Http.identityData
  | .logout _ => fun _ => .object [("revoked", .bool true)]
  | .logoutAll _ => fun n => .object [("revoked_sessions", .nat n)]

theorem Request.doneStatus_mem (q : Request) : q.doneStatus ∈ [200, 201] := by
  cases q with
  | register email password => exact List.mem_cons_of_mem 200 List.mem_cons_self
  | _ => exact List.mem_cons_self

namespace Http

variable {api : Api σ} {r : Request} {route : Route}

/-! ## The envelope -/

/-- **A response in the envelope**: an object of the status and the data, under a status that clients are
told of. From 400 on, the data is an object with a message and nothing else. -/
structure Response.Enveloped (response : Response) : Prop where
  contentType : response.contentType = some .json
  status : response.status ∈ [200, 201, 400, 401, 409, 500, 503]
  body : ∃ data, response.body
      = (Json.Value.object [("status_code", .nat response.status), ("data", data)]).toText
    ∧ (400 ≤ response.status → ∃ message, data = .object [("message", .text message)])

theorem envelope_enveloped {status : Nat} (data : Json.Value) (h : status ∈ [200, 201]) :
    (envelope status data).Enveloped := by
  have hsuccess : status < 400 := by
    have hall : ∀ n ∈ [200, 201], n < 400 := by decide
    exact hall status h
  refine ⟨rfl, List.mem_append_left [400, 401, 409, 500, 503] h, data, rfl, fun hfailure => ?_⟩
  exact absurd hfailure (Nat.not_le.mpr hsuccess)

theorem failure_enveloped {status : Nat} (message : String)
    (h : status ∈ [400, 401, 409, 500, 503]) : (failure status message).Enveloped :=
  ⟨rfl, List.mem_append_right [200, 201] h, _, rfl, fun _ => ⟨message, rfl⟩⟩

theorem ofFault_enveloped (fault : AuthFault) : (ofFault fault).Enveloped := by
  have hstatus : statusOf fault ∈ [400, 401, 409, 500, 503] := by
    cases fault with
    | invalidArgument message => exact List.mem_cons_self
    | _ => decide
  exact failure_enveloped fault.message hstatus

/-- Among the faults, the status for malformed arguments is for nothing else. -/
theorem ofFault_status_iff {fault : AuthFault} :
    (ofFault fault).status = 400 ↔ fault.BlamesArgument := by
  cases fault with
  | invalidArgument message => exact iff_of_true rfl trivial
  | _ => exact iff_of_false (by decide) id

/-! ## Bodies -/

/-- A body that cannot be read is refused in plain text. -/
theorem readBody_rejection {τ : Type} {record : Json.Record τ α} {rejection : Response}
    (h : readBody record r = .error rejection) :
    rejection.contentType = some .text ∧ rejection.status ∈ [400, 413, 415, 422] := by
  have hplain : ∀ (status : Nat) (text : String), status ∈ [400, 413, 415, 422] →
      Except.error (Response.ofBody status .text text) = (.error rejection : Except Response α) →
      rejection.contentType = some .text ∧ rejection.status ∈ [400, 413, 415, 422] := by
    rintro status text hstatus heq
    rw [← Except.error.inj heq]
    exact ⟨rfl, hstatus⟩
  unfold readBody at h
  split at h
  · exact hplain 415 _ (by decide) h
  split at h
  · exact hplain 413 _ (by decide) h
  dsimp only at h
  split at h
  · cases h
  split at h
  · exact hplain 422 _ (by decide) h
  · exact hplain 400 _ (by decide) h

/-- **What a request asks of the service** by its body, or the response that refuses the body. Two routes
read no body. -/
def Route.read (r : Request) : Route → Except Response (Option SessionAuth.Request)
  | .health | .logoutAll => .ok none
  | .register => (readBody (Credentials.record "RegisterRequest") r).map fun c =>
    some (.register c.email c.password)
  | .login => (readBody (Credentials.record "LoginRequest") r).map fun c =>
    some (.login c.email c.password (clientOf r))
  | .refresh => (readBody (singleText "RefreshRequest" "refresh_token") r).map fun token =>
    some (.refresh token (clientOf r))
  | .validate => (readBody (singleText "ValidateRequest" "access_token") r).map fun token =>
    some (.validate token)
  | .logout => (readBody (singleText "LogoutRequest" "refresh_token") r).map fun token =>
    some (.logout token)

/-- **A request that can be read is served**, and answered with what comes of it. -/
theorem Route.run_read {q : SessionAuth.Request} (h : route.read r = .ok (some q)) :
    route.run api r = respond q.doneStatus q.doneData (api.service.serve q) := by
  cases route with
  | health => cases h
  | logoutAll => cases h
  | _ =>
    obtain ⟨x, hbody, hask⟩ := map_eq_ok h
    obtain rfl := Option.some.inj hask
    exact withBody_read hbody

/-- **A request that cannot be read is not served.** -/
theorem Route.run_rejected {rejection : Response} (h : route.read r = .error rejection) :
    route.run api r = return rejection := by
  cases route with
  | health => cases h
  | logoutAll => cases h
  | _ => exact withBody_rejected (map_eq_error h)

theorem Route.read_rejection {rejection : Response} (h : route.read r = .error rejection) :
    rejection.contentType = some .text ∧ rejection.status ∈ [400, 413, 415, 422] := by
  cases route with
  | health => cases h
  | logoutAll => cases h
  | _ => exact readBody_rejection (map_eq_error h)

/-! ## The answers of the routes -/

/-- **The answer to a request that can be read**: in the envelope, and under 400 exactly if an argument of
what it asks is malformed. -/
structure Response.Serves (asked : Option SessionAuth.Request) (response : Response) : Prop where
  enveloped : response.Enveloped
  invalid : response.status = 400 ↔ ∃ q, asked = some q ∧ ¬q.WellFormed

/-- What a route waits for: the database where it asks after it, or a permit. -/
def Route.Waits (api : Api σ) (r : Request) (st : ServiceState σ) : Route → Prop
  | .health => ∃ ping, api.ping = some ping ∧ (ping st.world).1 = .error .stalled
  | route => ∃ q, route.read r = .ok (some q) ∧ q.Waits st

/-- Whatever becomes of a request, the response is in the envelope. -/
theorem respond_serves (q : SessionAuth.Request) :
    Ensures (respond q.doneStatus q.doneData (api.service.serve q)) st
      (fun response _ => response.Serves (some q)) (fun e _ => e = .stalled → q.Waits st) := by
  have hwellFormed : (∃ q', some q = some q' ∧ ¬q'.WellFormed) ↔ ¬q.WellFormed :=
    ⟨fun ⟨q', heq, h⟩ => Option.some.inj heq ▸ h, fun h => ⟨q, rfl, h⟩⟩
  refine respond_ensures ((Service.serve_blames q).mono ?_ ?_)
  · intro x _ hq
    have hdone : q.doneStatus ≠ 400 := by
      have hall : ∀ n ∈ [200, 201], n ≠ 400 := by decide
      exact hall _ q.doneStatus_mem
    exact ⟨envelope_enveloped _ q.doneStatus_mem,
      iff_of_false hdone fun h => hwellFormed.mp h hq⟩
  · rintro (fault | _ | _) _ ⟨hblames, hstalled⟩
    · exact ⟨ofFault_enveloped fault, ofFault_status_iff.trans (hblames.trans hwellFormed.symm)⟩
    · exact fun _ => hstalled rfl
    · exact nofun

/-- Where nothing is asked, no argument is malformed. -/
theorem Response.Enveloped.serves {response : Response} (h : response.Enveloped)
    (hstatus : response.status ≠ 400) : response.Serves none := by
  refine ⟨h, iff_of_false hstatus ?_⟩
  rintro ⟨q, heq, -⟩
  cases heq

theorem failure_serves {status : Nat} (message : String) (h : status ∈ [401, 503]) :
    (failure status message).Serves none := by
  have hall : ∀ n ∈ [401, 503], n ∈ [400, 401, 409, 500, 503] ∧ n ≠ 400 := by decide
  exact (failure_enveloped message (hall status h).1).serves (hall status h).2

theorem health_serves :
    Ensures (health api) st (fun response _ => response.Serves none)
      (fun e _ => e = .stalled → Route.health.Waits api r st) := by
  have hwell : ∀ data, (envelope 200 data).Serves none := by
    intro data
    have hstatus : 200 ≠ 400 := by decide
    exact (envelope_enveloped data (by decide)).serves hstatus
  unfold health
  cases hping : api.ping with
  | none => exact hwell _
  | some ping =>
    refine Ensures.bind (Q := fun _ _ => True)
      (attempt_ensures ((Serve.act_ensures Ensures.itself).mono (fun _ _ _ => trivial) ?_)) ?_
    · rintro (message | _ | _) st' hend
      · trivial
      · exact fun _ => ⟨ping, hping, congrArg Prod.fst hend⟩
      · exact nofun
    rintro (message | _) st' -
    · exact Serve.report_bind fun _ _ => failure_serves "database unavailable" (by decide)
    · exact hwell _

/-- Who asks is told in the envelope why the request is refused. -/
theorem caller_serves :
    Ensures (caller api r) st
      (fun outcome _ => ∀ rejection, outcome = .error rejection → rejection.Serves none)
      (fun e _ => e ≠ .stalled) := by
  have hunauthorized : ∀ message rejection,
      (.error (failure 401 message) : Except Response UserId) = .error rejection →
        rejection.Serves none := by
    intro message rejection heq
    rw [← Except.error.inj heq]
    exact failure_serves message (by decide)
  unfold caller
  cases bearerToken r with
  | error message => exact hunauthorized message
  | ok token =>
    refine Ensures.bind (Q := fun _ _ => True) (attempt_ensures
      ((Service.serve_blames (.validate token)).mono (fun _ _ _ => trivial) ?_)) ?_
    · rintro (fault | _ | _) _ ⟨-, hstalled⟩
      · trivial
      · exact (hstalled rfl).elim
      · exact nofun
    rintro (fault | identity) st₁ -
    · exact Serve.report_bind fun _ _ => hunauthorized _
    · dsimp only
      cases UserId.parse identity.userId with
      | ok userId => exact nofun
      | error flaw => exact Serve.report_bind fun _ _ => hunauthorized _

/-- **What a route answers to a request that can be read** is in the envelope. -/
theorem Route.run_serves {asked : Option SessionAuth.Request} (h : route.read r = .ok asked) :
    Ensures (route.run api r) st (fun response _ => response.Serves asked)
      (fun e _ => e = .stalled → route.Waits api r st) := by
  cases route with
  | health =>
    obtain rfl : none = asked := Except.ok.inj h
    exact health_serves
  | logoutAll =>
    obtain rfl : none = asked := Except.ok.inj h
    refine Ensures.bind_mono caller_serves (fun e _ he hstalled => absurd hstalled he) ?_
    rintro (rejection | userId) st₁ hrejection
    · exact hrejection rejection rfl
    · refine (respond_serves (.logoutAll userId)).mono ?_ fun e _ he hstalled => (he hstalled).elim
      rintro response _ ⟨henveloped, hinvalid⟩
      refine henveloped.serves fun hstatus => ?_
      obtain ⟨q, heq, hq⟩ := hinvalid.mp hstatus
      obtain rfl := Option.some.inj heq
      exact hq trivial
  | _ =>
    obtain ⟨x, -, hasked⟩ := map_eq_ok h
    obtain rfl := hasked
    rw [Route.run_read h]
    exact (respond_serves _).mono (fun _ _ hx => hx) fun e _ he hstalled => ⟨_, h, he hstalled⟩

/-- **How a route answers a request**: as the service does if its body can be read, and otherwise with a
refusal of the body in plain text, of which the service is not told. -/
structure Route.Answers (route : Route) (r : Request) (st : ServiceState σ) (response : Response)
    (st' : ServiceState σ) : Prop where
  enveloped : response.Enveloped ↔ ∃ asked, route.read r = .ok asked
  invalid : ∀ asked, route.read r = .ok asked →
    (response.status = 400 ↔ ∃ q, asked = some q ∧ ¬q.WellFormed)
  rejected : ∀ rejection, route.read r = .error rejection →
    response = rejection ∧ rejection.contentType = some .text
      ∧ rejection.status ∈ [400, 413, 415, 422] ∧ st' = st

theorem Route.run_answers (route : Route) :
    Ensures (route.run api r) st (fun response st' => route.Answers r st response st')
      (fun e _ => e = .stalled → route.Waits api r st) := by
  cases hread : route.read r with
  | ok asked =>
    refine (Route.run_serves hread).mono ?_ fun _ _ he => he
    rintro response st' ⟨henveloped, hinvalid⟩
    refine ⟨iff_of_true henveloped ⟨asked, hread⟩, ?_, ?_⟩
    · intro asked' hasked'
      obtain rfl := Except.ok.inj (hread.symm.trans hasked')
      exact hinvalid
    · intro rejection hrejection
      cases hread.symm.trans hrejection
  | error rejection =>
    obtain ⟨hplain, hstatus⟩ := Route.read_rejection hread
    rw [Route.run_rejected hread]
    refine ⟨iff_of_false ?_ ?_, ?_, ?_⟩
    · intro henveloped
      cases hplain.symm.trans henveloped.contentType
    · rintro ⟨asked, hasked⟩
      cases hread.symm.trans hasked
    · intro asked hasked
      cases hread.symm.trans hasked
    · intro rejection' hrejection'
      obtain rfl := Except.error.inj (hread.symm.trans hrejection')
      exact ⟨rfl, hplain, hstatus, rfl⟩

end Http

/-- **A response is in the envelope exactly where the body of the request can be read.** Whatever the
state, the service and the headers, a request with a method of a route is answered as
`Http.Route.Answers` says, and who asks for the head alone is not sent the body. There is no answer only
where the service panics or has to wait. -/
theorem answers_enveloped_where_read (api : Http.Api σ) (r : Http.Request) (route : Http.Route)
    (st : ServiceState σ) (hroute : Http.Route.paths.lookup r.path = some route)
    (hmethod : route.methods.contains r.method = true) :
    (∃ whole : Http.Response, route.Answers r st whole (Http.handle api r st).2
        ∧ (Http.handle api r st).1 = .ok (if r.method = "HEAD" then whole.withoutBody else whole))
      ∨ (Http.handle api r st).1 = .error .panicked
      ∨ (Http.handle api r st).1 = .error .stalled ∧ route.Waits api r st := by
  refine Ensures.ending (a := Http.handle api r) (s := st)
    (P := fun (result : Except (Failure Empty) Http.Response) st' =>
      (∃ whole : Http.Response, route.Answers r st whole st'
        ∧ result = .ok (if r.method = "HEAD" then whole.withoutBody else whole))
      ∨ result = .error .panicked ∨ result = .error .stalled ∧ route.Waits api r st) ?_
  rw [Http.handle_route hroute hmethod]
  refine Ensures.bind_mono route.run_answers ?_ ?_
  · rintro (fault | _ | _) _ hwaits
    · exact fault.elim
    · exact .inr (.inr ⟨rfl, hwaits rfl⟩)
    · exact .inr (.inl rfl)
  · exact fun whole st' hwhole => .inl ⟨whole, hwhole, rfl⟩

/-! ### A blank token, and none at all -/

/-- The request to validate what is in a body. -/
def validationOf (body : String) : Http.Request where
  method := "POST"
  target := "/api/auth/validate"
  headers := [("content-type", Utf8.ofString "application/json")]
  body
  peer := none

/-- A body whose token is blank. -/
def blankToken : String := "\x7b\"access_token\": \" \"\x7d"

theorem answers_enveloped_where_read_blank :
    Http.Route.paths.lookup (validationOf blankToken).path = some .validate
    ∧ Http.Route.validate.methods.contains (validationOf blankToken).method = true
    ∧ ∃ response, (Http.handle ⟨memoryService ⟨[], "issuer"⟩ {}, none⟩ (validationOf blankToken)
        freshMemory).1 = .ok response ∧ response.Enveloped ∧ response.status = 400 := by
  have hpath : Http.Route.paths.lookup (validationOf blankToken).path = some .validate := by decide
  have hmethod : Http.Route.validate.methods.contains (validationOf blankToken).method = true := by
    decide
  have hbody : Http.readBody (Http.singleText "ValidateRequest" "access_token")
      (validationOf blankToken) = .ok " " := by decide +kernel
  have hread : Http.Route.validate.read (validationOf blankToken) = .ok (some (.validate " ")) := by
    unfold Http.Route.read
    rw [hbody]
    rfl
  have hblank : ¬(Request.validate " ").WellFormed := by
    have htrimmed : ¬(Text.trim " ".toList).isEmpty = false := by decide
    exact htrimmed
  have hresponse : (Http.handle ⟨memoryService ⟨[], "issuer"⟩ {}, none⟩ (validationOf blankToken)
      freshMemory).1 = .ok (Http.ofFault (.invalidArgument "access_token required")) := by
    decide +kernel
  have hend := answers_enveloped_where_read ⟨memoryService ⟨[], "issuer"⟩ {}, none⟩
    (validationOf blankToken) .validate freshMemory hpath hmethod
  rw [hresponse] at hend
  obtain ⟨whole, hanswers, hwhole⟩ | hpanicked | ⟨hstalled, -⟩ := hend
  · rw [hwhole] at hresponse
    exact ⟨hpath, hmethod, whole, hresponse, hanswers.enveloped.mpr ⟨_, hread⟩,
      (hanswers.invalid _ hread).mpr ⟨_, rfl, hblank⟩⟩
  · cases hpanicked
  · cases hstalled

/-- **A body without its field is refused in plain text**, under a status that clients are not told
of. -/
theorem lacking_field_not_enveloped :
    ¬∀ (σ : Type) (api : Http.Api σ) (st : ServiceState σ) (r : Http.Request) (route : Http.Route)
      (response : Http.Response), Http.Route.paths.lookup r.path = some route →
        route.methods.contains r.method = true → (Http.handle api r st).1 = .ok response →
          response.Enveloped := by
  intro h
  have hresponse : (Http.handle ⟨memoryService ⟨[], "issuer"⟩ {}, none⟩ (validationOf "\x7b\x7d")
      freshMemory).1 = .ok (.ofBody 422 .text
        ("Failed to deserialize the JSON body into the target type: "
          ++ "missing field \x60access_token\x60 at line 1 column 2")) := by
    decide +kernel
  have hpath : Http.Route.paths.lookup (validationOf "\x7b\x7d").path = some .validate := by decide
  have henveloped := h MemoryStore ⟨memoryService ⟨[], "issuer"⟩ {}, none⟩ freshMemory
    (validationOf "\x7b\x7d") .validate _ hpath (by decide) hresponse
  cases henveloped.contentType

end SessionAuth
