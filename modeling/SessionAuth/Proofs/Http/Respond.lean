import SessionAuth.Http.Router
import SessionAuth.Proofs.Agree

/-!
From a request to the operation behind it, and from the end of an operation to the response.

A request with the method of a route is answered by the route. What an operation ensures is handed on by
its response, which a fault becomes as well as a value; an operation that stalls or panics has none.
-/

set_option autoImplicit false

namespace SessionAuth.Http

variable {σ ε α : Type} {api : Api σ} {r : Request} {st : ServiceState σ}

/-- **A request is answered by its route** if it has a method of the route. Who asks for the head alone is
not sent the body. -/
theorem handle_route {route : Route} (hroute : Route.paths.lookup r.path = some route)
    (hmethod : route.methods.contains r.method = true) :
    handle api r = do
      let response ← route.run api r
      return if r.method = "HEAD" then response.withoutBody else response := by
  have hoptions : ¬r.method = "OPTIONS" := by
    intro heq
    rw [heq] at hmethod
    cases route <;> exact absurd hmethod (by decide)
  unfold handle
  rw [if_neg hoptions, hroute]
  dsimp only
  rw [if_pos hmethod]

theorem handle_post {route : Route} (hmethod : r.method = "POST")
    (hroute : Route.paths.lookup r.path = some route)
    (hlisted : route.methods.contains "POST" = true) : handle api r = route.run api r := by
  have hhead : ¬"POST" = "HEAD" := by decide
  rw [handle_route hroute (hmethod ▸ hlisted), hmethod]
  simp only [if_neg hhead, bind_pure]

/-- A fault becomes a result; what never ends does not. -/
theorem attempt_ensures {a : Serve σ ε α} {Q : Except ε α → ServiceState σ → Prop}
    {F : Failure Empty → ServiceState σ → Prop}
    (h : Ensures a st (fun x st' => Q (.ok x) st') (fun e st' => match e with
      | .refused fault => Q (.error fault) st'
      | .stalled => F .stalled st'
      | .panicked => F .panicked st')) :
    Ensures (attempt a) st Q F := by
  unfold Ensures attempt at *
  rcases ha : a st with ⟨(_ | _ | _) | x, st'⟩ <;> rw [ha] at h <;> exact h

/-- What an operation ensures of its value and its fault is ensured of the response. -/
theorem respond_ensures {a : Serve σ AuthFault α} {status : Nat} {data : α → Json.Value}
    {Q : Response → ServiceState σ → Prop} {F : Failure Empty → ServiceState σ → Prop}
    (h : Ensures a st (fun x st' => Q (envelope status (data x)) st') (fun e st' => match e with
      | .refused fault => Q (ofFault fault) st'
      | .stalled => F .stalled st'
      | .panicked => F .panicked st')) :
    Ensures (respond status data a) st Q F := by
  refine Ensures.bind (Q := OnResult (fun value => Q (envelope status (data value)))
    fun fault => Q (ofFault fault)) (attempt_ensures (h.mono (fun _ _ h => h) ?_)) ?_
  · rintro (fault | _ | _) st' h <;> exact h
  · rintro (fault | x) st' h <;> exact h

/-! ## Two runs -/

section Agreement

variable {σ' : Type} {R : ServiceState σ → ServiceState σ' → Prop} {a : Serve σ ε α}
  {a' : Serve σ' ε α} {st' : ServiceState σ'}

/-- What is refused on both sides becomes the same result. -/
theorem attempt_agree (h : Agree R Eq Eq a a' st st') :
    Agree R Eq Eq (attempt a) (attempt a') st st' := by
  unfold Agree attempt at *
  generalize a st = r at h
  generalize a' st' = r' at h
  cases h with
  | @value x x' t t' hx ht =>
    obtain rfl : x = x' := hx
    exact .value rfl ht
  | @failure e e' t t' he ht =>
    obtain rfl : e = e' := he
    cases e with
    | refused fault => exact .value rfl ht
    | stalled => exact .failure rfl ht
    | panicked => exact .failure rfl ht

theorem respond_agree {a : Serve σ AuthFault α} {a' : Serve σ' AuthFault α} {status : Nat}
    {data : α → Json.Value} (h : Agree R Eq Eq a a' st st') :
    Agree R Eq Eq (respond status data a) (respond status data a') st st' := by
  refine (attempt_agree h).bind ?_
  rintro (fault | x) _ t t' rfl ht
  · exact .pure rfl ht
  · exact .pure rfl ht

/-- Bodies that are read the same, of which the same is made. -/
theorem withBody_agree {τ : Type} {record : Json.Record τ α} {r' : Request}
    {f : α → Answering σ Response} {f' : α → Answering σ' Response}
    (hread : readBody record r = readBody record r')
    (h : ∀ x, Agree R Eq Eq (f x) (f' x) st st') (hst : R st st') :
    Agree R Eq Eq (withBody record r f) (withBody record r' f') st st' := by
  unfold withBody
  rw [← hread]
  cases readBody record r with
  | ok x => exact h x
  | error response => exact .pure rfl hst

end Agreement

/-! ## Bodies -/

section Bodies

variable {τ : Type} {record : Json.Record τ α} {f : α → Answering σ Response}

/-- What is made of a body that can be read. -/
theorem withBody_read {x : α} (h : readBody record r = .ok x) : withBody record r f = f x := by
  unfold withBody
  rw [h]

/-- A body that cannot be read is answered on the spot. -/
theorem withBody_rejected {rejection : Response} (h : readBody record r = .error rejection) :
    withBody record r f = return rejection := by
  unfold withBody
  rw [h]

end Bodies

end SessionAuth.Http
