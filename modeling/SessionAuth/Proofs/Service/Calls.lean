import SessionAuth.Proofs.Service.Effect

/-!
Which calls of the store a request makes.

A request calls the store at most once, but for a login, which looks for the user first and may then
open a session. `Request.Leaves` lists the calls, for any store and without a word about what they do;
`Service.serve_leaves` says that the list is complete. Whatever a store does at each of its calls is
thereby known of every request, and nothing that is shown about a store walks through the operations
of the service.
-/

set_option autoImplicit false

namespace SessionAuth

variable {σ τ ε α : Type}

/-! ## Calls -/

/-- **Two worlds alike to a store**: it is as it was, and so is the time. Events may have been reported
and random bytes drawn. -/
structure World.Alike (w w' : World σ) : Prop where
  store : w'.store = w.store
  now : w'.now = w.now

theorem Quiet.alike {st st' : ServiceState σ} (h : Quiet st st') : st.world.Alike st'.world :=
  ⟨h.store, h.now⟩

/-- **What a request leaves of a store**: the store as it was, or as it is behind the calls that the
request makes. What is called for, and for whom, is decided by the arguments of the request and by what
an earlier call has answered. -/
inductive Request.Leaves (store : Store σ) (w : World σ) : Request → σ → Prop where
  | untouched {q : Request} : Leaves store w q w.store
  | created {raw password : String} {user : User} {w₁ : World σ} (hw : w.Alike w₁)
      (hemail : Email.parse raw = .ok user.email) :
      Leaves store w (.register raw password) (store.createUser user w₁).2.store
  | lookedUp {raw password : String} {client : Client} {email : Email} {w₁ : World σ}
      (hw : w.Alike w₁) (hemail : Email.parse raw = .ok email) :
      Leaves store w (.login raw password client) (store.findUserByEmail email w₁).2.store
  /-- The session is opened for the user who has been found and knows the password. -/
  | opened {raw password secret : String} {client : Client} {email : Email} {user : User}
      {expires : Instant} {w₁ w₂ : World σ} (hw : w.Alike w₁) (hemail : Email.parse raw = .ok email)
      (hfound : (store.findUserByEmail email w₁).1 = .ok (some user))
      (hverify : Hasher.verify password user.passwordHash = .ok ())
      (hbetween : (store.findUserByEmail email w₁).2.Alike w₂) :
      Leaves store w (.login raw password client)
        (store.createSession user.id secret expires client none w₂).2.store
  | rotated {raw secret newSecret : String} {client : Client} {expires : Instant} {w₁ : World σ}
      (hw : w.Alike w₁) (hsecret : Presents raw secret) :
      Leaves store w (.refresh raw client)
        (store.rotateSession secret newSecret expires client w₁).2.store
  | ended {raw secret : String} {w₁ : World σ} (hw : w.Alike w₁) (hsecret : Presents raw secret) :
      Leaves store w (.logout raw) (store.revokeSession secret w₁).2.store
  | endedAll {user : UserId} {w₁ : World σ} (hw : w.Alike w₁) :
      Leaves store w (.logoutAll user) (store.revokeAllSessions user w₁).2.store

namespace Service

variable {s : Service σ} {st : ServiceState σ}

/-! ## What a call leaves -/

/-- A call leaves the world that the store leaves, and is answered as the store answers; what the service
reports of a failure does not touch the store again. -/
theorem bounded_leaves {operation : String} {a : Act σ ε α} :
    Ensures (s.bounded operation a) st
      (fun r st' => st'.world = (a st.world).2 ∧ ∀ x, r = .ok x → (a st.world).1 = .ok x)
      (fun _ st' => st'.world.store = (a st.world).2.store) := by
  refine (bounded_ensures Ensures.itself).mono ?_ ?_
  · rintro (fault | x) _ ⟨w, rfl, ha⟩
    · exact ⟨congrArg Prod.snd ha.symm, nofun⟩
    · refine ⟨congrArg Prod.snd ha.symm, fun y hy => ?_⟩
      rw [← Except.ok.inj hy]
      exact congrArg Prod.fst ha
  · rintro _ st' ⟨f, w, ha, hst, -⟩
    exact hst.trans (congrArg (·.2.store) ha.symm)

theorem boundedSession_leaves {operation : String} {a : Act σ SessionFault α} :
    Ensures (s.boundedSession operation a) st
      (fun _ st' => st'.world.store = (a st.world).2.store)
      (fun _ st' => st'.world.store = (a st.world).2.store) := by
  refine (boundedSession_ensures Ensures.itself).mono ?_ ?_
  · rintro _ _ ⟨w, rfl, ha⟩
    exact congrArg (·.2.store) ha.symm
  · rintro _ st' ⟨f, w, ha, hst, -⟩
    exact hst.trans (congrArg (·.2.store) ha.symm)

/-! ## Operations -/

/-- What holds of a store holds where it is left. -/
theorem of_store_eq {P : σ → Prop} {st : ServiceState σ} {m : σ} (h : st.world.store = m)
    (hm : P m) : P st.world.store := h ▸ hm

/-- What is reported is of no matter to the store. -/
theorem report_leaves {P : σ → Prop} {e : Event} {f : Unit → Serve σ AuthFault α}
    (hP : P st.world.store)
    (hf : ∀ st', P st'.world.store → EndsIn (fun st'' => P st''.world.store) (f ()) st') :
    EndsIn (fun st' => P st'.world.store) (Serve.report e >>= f) st :=
  Serve.report_bind fun st' h => hf st' (of_store_eq h.store hP)

/-- What is quiet leaves the store as it is. -/
theorem leaves_of_quiet {q : Request} {st st' : ServiceState σ} (h : Quiet st st') :
    q.Leaves s.store st.world st'.world.store := by
  rw [h.store]
  exact .untouched

theorem register_leaves (raw password : String) :
    EndsIn (fun st' => Request.Leaves s.store st.world (.register raw password) st'.world.store)
      (s.register raw password) st := by
  refine Ensures.bind_mono requireEmail_ensures (fun _ _ h => leaves_of_quiet h) ?_
  rintro email st₀ ⟨rfl, hemail⟩
  split
  · refine Ensures.bind_mono Serve.hash_quiet (fun _ _ h => leaves_of_quiet h) ?_
    rintro (fault | hash) st₁ h₁
    · exact internal_ensures fun _ h => leaves_of_quiet (h₁.trans h)
    refine Ensures.get_bind (Ensures.bind_mono Serve.register?_ensures
      (fun _ _ h => leaves_of_quiet (h₁.trans h)) ?_)
    rintro user st₂ ⟨h₂, rfl, -⟩
    have hcalled : Request.Leaves s.store st₀.world (.register raw password)
        (s.store.createUser user st₂.world).2.store := .created (h₁.trans h₂).alike hemail
    refine Ensures.bind_mono bounded_leaves (fun _ _ h => of_store_eq h hcalled) ?_
    rintro r st₃ ⟨h₃, -⟩
    rw [← h₃] at hcalled
    split
    · exact report_leaves hcalled fun _ h => h
    · exact report_leaves hcalled fun _ h => h
    · exact internal_ensures fun _ h => of_store_eq h.store hcalled
  · exact .untouched

theorem openSession_leaves {P : σ → Prop} (user : User) (client : Client)
    (hnone : P st.world.store)
    (hcalled : ∀ secret expires (w : World σ), st.world.Alike w →
      P (s.store.createSession user.id secret expires client none w).2.store) :
    EndsIn (fun st' => P st'.world.store) (s.openSession user client) st := by
  refine Ensures.bind_mono newRefreshSecret_ensures (fun _ _ h => of_store_eq h.1.store hnone) ?_
  rintro secret st₁ ⟨h₁, -⟩
  refine Ensures.bind_mono expiryAfter_ensures (fun _ _ h => of_store_eq (h₁.trans h.1).store hnone) ?_
  rintro expires st₁ ⟨rfl, -⟩
  refine Ensures.bind_mono issue_ensures (fun _ _ h => of_store_eq (h₁.trans h.1).store hnone) ?_
  rintro tokens st₁ ⟨rfl, -⟩
  have hP := hcalled secret expires st₁.world h₁.alike
  refine Ensures.bind_mono boundedSession_leaves (fun _ _ h => of_store_eq h hP) fun id st₂ h₂ => ?_
  exact report_leaves (h₂ ▸ hP) fun _ h => h

theorem login_leaves (raw password : String) (client : Client) :
    EndsIn (fun st' => Request.Leaves s.store st.world (.login raw password client) st'.world.store)
      (s.login raw password client) st := by
  refine Ensures.bind_mono requireEmail_ensures (fun _ _ h => leaves_of_quiet h) ?_
  rintro email st₀ ⟨rfl, hemail⟩
  show Ensures (if password.isEmpty then _ else _) _ _ _
  split
  · exact .untouched
  have hcalled : Request.Leaves s.store st₀.world (.login raw password client)
      (s.store.findUserByEmail email st₀.world).2.store := .lookedUp ⟨rfl, rfl⟩ hemail
  refine Ensures.bind_mono bounded_leaves (fun _ _ h => of_store_eq h hcalled) ?_
  rintro (fault | user?) st₁ ⟨h₁, hfound⟩ <;> rw [← h₁] at hcalled
  · exact internal_ensures fun _ h => of_store_eq h.store hcalled
  cases user? with
  | none =>
    refine Ensures.bind_mono equalizeUnknownUser_quiet (fun _ _ h => of_store_eq h.store hcalled)
      fun _ st₂ h₂ => ?_
    exact report_leaves (h₂.store ▸ hcalled) fun _ h => h
  | some user =>
    refine Ensures.bind_mono authenticate_ensures (fun _ _ h => of_store_eq h.store hcalled) ?_
    rintro _ st₂ ⟨h₂, hverify⟩
    refine openSession_leaves user client (h₂.store ▸ hcalled) fun secret expires w hw => ?_
    refine .opened ⟨rfl, rfl⟩ hemail (hfound _ rfl) hverify ?_
    rw [← h₁]
    exact ⟨hw.store.trans h₂.store, hw.now.trans h₂.now⟩

theorem refresh_leaves (raw : String) (client : Client) :
    EndsIn (fun st' => Request.Leaves s.store st.world (.refresh raw client) st'.world.store)
      (s.refresh raw client) st := by
  refine Ensures.bind_mono requireArgument_ensures (fun _ _ h => h ▸ .untouched) ?_
  rintro secret st₀ ⟨rfl, hsecret⟩
  refine Ensures.bind_mono newRefreshSecret_ensures (fun _ _ h => leaves_of_quiet h.1) ?_
  rintro newSecret st₁ ⟨h₁, -⟩
  refine Ensures.bind_mono expiryAfter_ensures (fun _ _ h => leaves_of_quiet (h₁.trans h.1)) ?_
  rintro expires st₁ ⟨rfl, -⟩
  have hcalled : Request.Leaves s.store st₀.world (.refresh raw client)
      (s.store.rotateSession secret newSecret expires client st₁.world).2.store :=
    .rotated h₁.alike hsecret
  refine Ensures.bind_mono boundedSession_leaves (fun _ _ h => of_store_eq h hcalled) fun r st₂ h₂ => ?_
  rw [← h₂] at hcalled
  -- signing comes behind the rotation, and does not touch the store whether it succeeds or not
  refine Serve.report_bind fun st₃ h₃ => issue_ensures.mono ?_ ?_
  · rintro _ _ ⟨rfl, -⟩
    exact h₃.store ▸ hcalled
  · rintro _ _ ⟨h₄, -⟩
    exact (h₃.trans h₄).store ▸ hcalled

/-- Looking at an access token does not call the store. -/
theorem validate_untouched (raw : String) :
    Spares (·.world.store) (s.validate raw) st := by
  refine Ensures.bind_mono requireArgument_ensures (fun _ _ h => h ▸ rfl) ?_
  rintro token st₀ ⟨rfl, -⟩
  refine Ensures.get_bind ?_
  split
  · rfl
  · rfl
  · exact Serve.report_bind fun _ h => h.store

theorem logout_leaves (raw : String) :
    EndsIn (fun st' => Request.Leaves s.store st.world (.logout raw) st'.world.store)
      (s.logout raw) st := by
  refine Ensures.bind_mono requireArgument_ensures (fun _ _ h => h ▸ .untouched) ?_
  rintro secret st₀ ⟨rfl, hsecret⟩
  have hcalled : Request.Leaves s.store st₀.world (.logout raw)
      (s.store.revokeSession secret st₀.world).2.store := .ended ⟨rfl, rfl⟩ hsecret
  refine Ensures.bind_mono boundedSession_leaves (fun _ _ h => of_store_eq h hcalled) fun _ st₁ h₁ => ?_
  exact Serve.report_ensures fun _ h => of_store_eq (h.store.trans h₁) hcalled

theorem logoutAll_leaves (user : UserId) :
    EndsIn (fun st' => Request.Leaves s.store st.world (.logoutAll user) st'.world.store)
      (s.logoutAll user) st := by
  have hcalled : Request.Leaves s.store st.world (.logoutAll user)
      (s.store.revokeAllSessions user st.world).2.store := .endedAll ⟨rfl, rfl⟩
  refine Ensures.bind_mono boundedSession_leaves (fun _ _ h => of_store_eq h hcalled) fun n st₁ h₁ => ?_
  exact report_leaves (h₁ ▸ hcalled) fun _ h => h

/-! ## Requests -/

/-- **A request makes no calls but these**, whatever the store answers and however the request ends. -/
theorem serve_leaves (q : Request) :
    EndsIn (fun st' => q.Leaves s.store st.world st'.world.store) (s.serve q) st := by
  cases q with
  | register raw password => exact register_leaves raw password
  | login raw password client => exact login_leaves raw password client
  | refresh raw client => exact refresh_leaves raw client
  | validate raw =>
    refine (validate_untouched raw).mono ?_ ?_
    · rintro _ st' h
      exact of_store_eq h .untouched
    · rintro _ st' h
      exact of_store_eq h .untouched
  | logout raw => exact logout_leaves raw
  | logoutAll user => exact logoutAll_leaves user

theorem visit_leaves (change : τ → σ → σ) (o : Occasion τ) (st : ServiceState σ) :
    o.request.Leaves s.store (st.meet change o).world (s.visit change o st).2.world.store :=
  (serve_leaves o.request).state

end Service

end SessionAuth
