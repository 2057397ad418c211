import SessionAuth.Proofs.Agree
import SessionAuth.Proofs.Service.Parts

/-!
Services in step.

Two runs of an operation part where a value that must not show reaches the store. From there on they stay
in step: the clock, the random source, the pool and the events are the same, and the stores are related. What
the operations do behind a call of the store depends on nothing else, so that it is the same on both sides.
-/

set_option autoImplicit false

namespace SessionAuth

variable {σ ε α α' β β' : Type} {R : σ → σ → Prop}

/-- **Services in step**: the surroundings are in step, and all else is the same. -/
structure ServiceState.InStep (R : σ → σ → Prop) (st st' : ServiceState σ) : Prop where
  world : World.InStep R st.world st'.world
  pool : st.pool = st'.pool
  dummyHash : st.dummyHash = st'.dummyHash

namespace ServiceState.InStep

variable {st st' : ServiceState σ}

theorem refl (h : R st.world.store st.world.store) : InStep R st st := ⟨.refl h, rfl, rfl⟩

theorem report (h : InStep R st st') (e : Event) :
    Agree (ServiceState.InStep R) Eq Eq (Serve.report e : Serve σ ε Unit) (Serve.report e) st st' :=
  .value rfl ⟨⟨h.world.now, h.world.random, congrArg (· ++ [e]) h.world.events, h.world.store⟩,
    h.pool, h.dummyHash⟩

theorem report_bind {V : β → β' → Prop} {e : Event} {f : Unit → Serve σ ε β}
    {f' : Unit → Serve σ ε β'} (h : InStep R st st')
    (hf : ∀ t t', InStep R t t' → Agree (ServiceState.InStep R) V Eq (f ()) (f' ()) t t') :
    Agree (ServiceState.InStep R) V Eq (Serve.report e >>= f) (Serve.report e >>= f') st st' := by
  refine (h.report e).bind ?_
  rintro _ _ t t' rfl ht
  exact hf t t' ht

theorem internal {V : α → α' → Prop} (h : InStep R st st') (e : Event) :
    Agree (ServiceState.InStep R) V Eq (Service.internal e : Serve σ AuthFault α)
      (Service.internal e : Serve σ AuthFault α') st st' :=
  h.report_bind fun _ _ ht => .throw rfl ht

/-- Tokens are signed by the clock. -/
theorem issue {s : Service σ} {user : User} {secret : String} {expires : Instant}
    (h : InStep R st st') :
    Agree (ServiceState.InStep R) Eq Eq (s.issue user secret expires) (s.issue user secret expires)
      st st' := by
  have hmint : Agree (ServiceState.InStep R) Eq Eq (s.mintAccess user) (s.mintAccess user) st st' := by
    refine .get_bind ?_
    dsimp only
    rw [← h.world.now]
    cases s.signer.mint st.world.now user.id.toText user.email.text s.settings.accessLifetime with
    | ok minted => exact .pure rfl h
    | error fault => exact h.internal _
  refine hmint.bind ?_
  rintro token _ t t' rfl ht
  exact .pure rfl ht

end ServiceState.InStep

/-! ## Calls of the store -/

/-- Results alike: values that are alike, or the same fault. -/
inductive ExceptAlike (V : α → α' → Prop) : Except ε α → Except ε α' → Prop where
  | ok {x : α} {x' : α'} (h : V x x') : ExceptAlike V (.ok x) (.ok x')
  | error {fault : ε} : ExceptAlike V (.error fault) (.error fault)

namespace Service

variable {s : Service σ} {operation : String} {st : ServiceState σ}

/-- A call hands on what comes of it on both sides; where the stores are silent, so are both services. -/
theorem bounded_inStep {V : α → α' → Prop} {a : Act σ ε α} {a' : Act σ ε α'}
    (h : Agree (World.InStep R) V Eq a a' st.world st.world) :
    Agree (ServiceState.InStep R) (ExceptAlike V) Eq (s.bounded operation a)
      (s.bounded operation a') st st := by
  refine .get_bind ?_
  unfold Agree at h
  generalize a st.world = r at h
  generalize a' st.world = r' at h
  cases h with
  | value hx hw => exact .set_bind (.pure (.ok hx) ⟨hw, rfl, rfl⟩)
  | @failure e e' w w' he hw =>
    obtain rfl : e = e' := he
    have hst : ServiceState.InStep R { st with world := w } { st with world := w' } :=
      ⟨hw, rfl, rfl⟩
    apply Agree.set_bind
    cases e with
    | refused fault => exact .pure .error hst
    | stalled => exact hst.internal _
    | panicked => exact .throw rfl hst

theorem boundedSession_inStep {a a' : Act σ SessionFault α}
    (h : Agree (World.InStep R) Eq Eq a a' st.world st.world) :
    Agree (ServiceState.InStep R) Eq Eq (s.boundedSession operation a)
      (s.boundedSession operation a') st st := by
  refine (bounded_inStep h).bind ?_
  rintro _ _ t t' (hx | _) ht
  · exact .pure hx ht
  · refine Agree.ite (fun _ => ?_) fun _ => ht.internal _
    exact ht.report_bind fun _ _ hu => .throw rfl hu

end Service

end SessionAuth
