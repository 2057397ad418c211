import SessionAuth.Database.Server
import SessionAuth.Proofs.Ensures
import SessionAuth.Service.Service

/-!
Runs of the service: requests that are served one after the other, under circumstances of their own.

Nothing ties the circumstances of one request to those of another one. The clock may read an earlier
time than before, the random source may deliver any bytes and may run dry at any point, and the
store may be in any condition. Only what the service and its store keep is handed on.
-/

set_option autoImplicit false

namespace SessionAuth

variable {σ τ : Type}

/-! ## Requests -/

/-- What the service is asked to do. -/
inductive Request where
  | register (email password : String)
  | login (email password : String) (client : Client)
  | refresh (secret : String) (client : Client)
  | validate (token : String)
  | logout (secret : String)
  | logoutAll (user : UserId)

/-- What a request is answered with where the service does what it is asked to do. -/
def Request.Answer : Request → Type
  | .register _ _ => User
  | .login _ _ _ | .refresh _ _ => IssuedTokens
  | .validate _ => TokenIdentity
  | .logout _ => Unit
  | .logoutAll _ => Nat

/-- A request and what came of it. -/
structure Exchange where
  request : Request
  outcome : Except (Failure AuthFault) request.Answer

/-- Serves a request. -/
def Service.serve (s : Service σ) : (r : Request) → Serve σ AuthFault r.Answer
  | .register email password => s.register email password
  | .login email password client => s.login email password client
  | .refresh secret client => s.refresh secret client
  | .validate token => s.validate token
  | .logout secret => s.logout secret
  | .logoutAll user => s.logoutAll user

/-! ## Circumstances -/

/-- A request, and the circumstances in which it is served. The condition is that of the store. -/
structure Occasion (τ : Type) where
  request : Request
  now : Instant
  random : RandomSource
  condition : τ

/-- The state of a service in the circumstances of a request. A store meets a condition by being
changed. -/
def ServiceState.meet (change : τ → σ → σ) (o : Occasion τ) (st : ServiceState σ) :
    ServiceState σ :=
  { st with world :=
    { st.world with
      now := o.now
      random := o.random
      store := change o.condition st.world.store } }

/-- Serves a request in its circumstances. -/
def Service.visit (s : Service σ) (change : τ → σ → σ) (o : Occasion τ) (st : ServiceState σ) :
    Exchange × ServiceState σ :=
  let ending := s.serve o.request (st.meet change o)
  (⟨o.request, ending.1⟩, ending.2)

/-- Serves one request after the other. -/
def Service.run (s : Service σ) (change : τ → σ → σ) :
    List (Occasion τ) → ServiceState σ → List Exchange × ServiceState σ
  | [], st => ([], st)
  | o :: rest, st =>
    let first := s.visit change o st
    let later := s.run change rest first.2
    (first.1 :: later.1, later.2)

/-- **What every exchange keeps, a run keeps**: of the exchanges so far and the service. Where only some
occasions are looked at, all of the run have to be among them. -/
theorem Service.run_induction_of {s : Service σ} {change : τ → σ → σ} {C : Occasion τ → Prop}
    {P : List Exchange → ServiceState σ → Prop}
    (hstep : ∀ xs o st, C o → P xs st → P (xs ++ [(s.visit change o st).1]) (s.visit change o st).2)
    (l : List (Occasion τ)) (hl : ∀ o ∈ l, C o) (xs : List Exchange) (st : ServiceState σ)
    (h : P xs st) : P (xs ++ (s.run change l st).1) (s.run change l st).2 := by
  induction l generalizing xs st with
  | nil =>
    show P (xs ++ []) st
    rw [List.append_nil]
    exact h
  | cons o rest ih =>
    have hfirst := hstep xs o st (hl o List.mem_cons_self) h
    have hnext := ih (fun o' ho' => hl o' (List.mem_cons_of_mem o ho')) _ _ hfirst
    rw [List.append_assoc] at hnext
    exact hnext

theorem Service.run_induction {s : Service σ} {change : τ → σ → σ}
    {P : List Exchange → ServiceState σ → Prop}
    (hstep : ∀ xs o st, P xs st → P (xs ++ [(s.visit change o st).1]) (s.visit change o st).2)
    (l : List (Occasion τ)) (xs : List Exchange) (st : ServiceState σ) (h : P xs st) :
    P (xs ++ (s.run change l st).1) (s.run change l st).2 :=
  run_induction_of (C := fun _ => True) (fun xs o st _ => hstep xs o st) l (fun _ _ => trivial) xs st
    h

/-! ## What is ensured of an exchange -/

section Exchanges

variable {s : Service σ} {change : τ → σ → σ} {o : Occasion τ} {st : ServiceState σ} {q : Request}
  {Q : q.Answer → ServiceState σ → Prop} {F : Failure AuthFault → ServiceState σ → Prop}

/-- What is ensured where a request is served holds of the exchange. -/
theorem Service.visit_ending {P : Exchange → ServiceState σ → Prop} (hq : o.request = q)
    (h : Ensures (s.serve q) (st.meet change o) (fun x st' => P ⟨q, .ok x⟩ st')
      fun e st' => P ⟨q, .error e⟩ st') :
    P (s.visit change o st).1 (s.visit change o st).2 := by
  subst hq
  exact h.ending (P := fun r st' => P ⟨o.request, r⟩ st')

/-- What is ensured of the answer there is. -/
theorem Service.visit_of_ok (h : Ensures (s.serve q) (st.meet change o) Q F) {x : q.Answer}
    (hx : (s.visit change o st).1 = ⟨q, .ok x⟩) : Q x (s.visit change o st).2 := by
  obtain rfl : o.request = q := congrArg Exchange.request hx
  exact h.of_ok (eq_of_heq (Exchange.mk.inj hx).2)

/-- There is an answer where no failure can be. -/
theorem Service.visit_exists_ok (hq : o.request = q)
    (h : Ensures (s.serve q) (st.meet change o) Q fun _ _ => False) :
    ∃ x, (s.visit change o st).1 = ⟨q, .ok x⟩ ∧ Q x (s.visit change o st).2 := by
  refine visit_ending (P := fun x st' => ∃ a, x = ⟨q, .ok a⟩ ∧ Q a st') hq (h.mono ?_ ?_)
  · exact fun a _ ha => ⟨a, rfl, ha⟩
  · exact fun _ _ h => h.elim

/-- An exchange is one of an answer or one of a failure. -/
theorem Service.visit_cases (hq : o.request = q) (h : Ensures (s.serve q) (st.meet change o) Q F) :
    (∃ x, (s.visit change o st).1 = ⟨q, .ok x⟩ ∧ Q x (s.visit change o st).2)
      ∨ ∃ e, (s.visit change o st).1 = ⟨q, .error e⟩ ∧ F e (s.visit change o st).2 := by
  refine visit_ending (P := fun x st' => (∃ a, x = ⟨q, .ok a⟩ ∧ Q a st')
    ∨ ∃ e, x = ⟨q, .error e⟩ ∧ F e st') hq (h.mono ?_ ?_)
  · exact fun a _ ha => .inl ⟨a, rfl, ha⟩
  · exact fun e _ he => .inr ⟨e, rfl, he⟩

end Exchanges

/-! ## The database as a store -/

namespace Database

/-- What goes wrong with a statement. -/
inductive Trouble where
  /-- It is refused. -/
  | refusal (fault : ServerFault)
  /-- It is never answered. -/
  | silence

/-- What goes wrong with a statement, seen from the database. -/
def Trouble.interference : Trouble → Interference
  | .refusal fault => .fail fault
  | .silence => .stall

/-- The condition of a database while a request is served: whether it answers at all, and what goes
wrong with some of the statements, by their position among those of the request. -/
structure Condition where
  answers : Bool := true
  troubles : List (Nat × Trouble) := []

/-- A database without a past in a condition. A transaction that nobody has closed is dropped. -/
def meet (c : Condition) (db : Database) : Database where
  tables := db.settled
  interferences := c.troubles.map fun p => (p.1, p.2.interference)
  answers := c.answers

end Database

/-- A service that has just been started, on empty tables. -/
def ServiceState.fresh (pool : HashingPool) : ServiceState Database where
  world := { now := .epoch, random := ⟨.ofSeed 0, none⟩, events := [], store := {} }
  pool
  dummyHash := none

end SessionAuth
