import SessionAuth.Proofs.Service.Permit
import SessionAuth.Proofs.Service.Run

/-!
Which arguments are called invalid, and what else may become of a request.

Whether the arguments of a request are well formed is decided by the arguments alone
(`Request.WellFormed`): no account, no session and no fault of the store has a part in it. A request
with malformed arguments is refused for them, and one with well-formed arguments never is
(`Service.serve_blames`). What does not come to an end waits for a permit, which only a password takes; a
store that is silent is not waited for.
-/

set_option autoImplicit false

namespace SessionAuth

variable {σ ε α : Type} {st : ServiceState σ}

/-! ## Arguments -/

/-- **A request whose arguments are well formed**: an address can be read, a password is long enough to
be chosen, or is there at all, and a secret or a token is more than white space. -/
def Request.WellFormed : Request → Prop
  | .register email password =>
    (∃ e, Email.parse email = .ok e) ∧ Password.leastLength ≤ password.length
  | .login email password _ => (∃ e, Email.parse email = .ok e) ∧ password.isEmpty = false
  | .refresh text _ | .validate text | .logout text => (Text.trim text.toList).isEmpty = false
  | .logoutAll _ => True

/-- A request that has to wait: it comes with a password, and there is no permit. -/
def Request.Waits (st : ServiceState σ) : Request → Prop
  | .register _ _ | .login _ _ _ => st.pool.free = 0
  | _ => False

/-- A fault of an argument. -/
def AuthFault.BlamesArgument : AuthFault → Prop
  | .invalidArgument _ => True
  | _ => False

/-- A refusal of an argument. -/
def Failure.BlamesArgument : Failure AuthFault → Prop
  | .refused fault => fault.BlamesArgument
  | _ => False

/-- **A failure that the arguments are not to blame for.** If it is that there is no end, the request
waits. -/
structure Blameless (waits : Prop) (e : Failure AuthFault) (_ : ServiceState σ) : Prop where
  fault : ¬e.BlamesArgument
  stalled : e = .stalled → waits

section

variable {waits : Prop}

/-- Any other fault is none of the arguments. -/
theorem blameless_refused {fault : AuthFault} (h : ¬fault.BlamesArgument) (st : ServiceState σ) :
    Blameless waits (.refused fault) st := ⟨h, nofun⟩

theorem blameless_internal (st : ServiceState σ) : Blameless waits (.refused .internal) st :=
  blameless_refused id st

theorem blameless_panicked (st : ServiceState σ) : Blameless waits .panicked st := ⟨id, nofun⟩

/-- Where an action waits for a permit, so does the request. -/
theorem NeedsPermit.blameless {a : Serve σ AuthFault α} {P : α → Prop} (h : NeedsPermit a st P)
    (hwaits : st.pool.free = 0 → waits) :
    Ensures a st (fun x _ => P x) (Blameless waits) := by
  refine h.mono (fun _ _ ⟨_, hP, _, _⟩ => hP) ?_
  rintro _ _ ⟨hfree, rfl, -⟩
  exact ⟨id, fun _ => hwaits hfree⟩

namespace Service

variable {s : Service σ} {Q : α → ServiceState σ → Prop}

/-! ## Parts of the operations -/

/-- What is reported beforehand does not matter to a refusal. -/
theorem refuse_blameless {e : Event} {fault : AuthFault} (h : ¬fault.BlamesArgument) :
    Ensures (do Serve.report e; Serve.refuse fault : Serve σ AuthFault α) st Q (Blameless waits) :=
  Serve.report_bind fun st' _ => blameless_refused h st'

/-- A store that does not answer is not waited for. -/
theorem bounded_blameless {operation : String} {a : Act σ ε α} :
    Ensures (s.bounded operation a) st (fun _ st' => ∃ w, st' = { st with world := w })
      (Blameless waits) := by
  refine (bounded_ensures Ensures.itself).mono (fun _ _ ⟨w, hst, _⟩ => ⟨w, hst⟩) ?_
  rintro e st' ⟨_ | _ | _, _, -, -, he⟩
  · exact he.elim
  · rw [he]
    exact blameless_internal st'
  · rw [he]
    exact blameless_panicked st'

theorem boundedSession_blameless {operation : String} {a : Act σ SessionFault α} :
    Ensures (s.boundedSession operation a) st (fun _ _ => True) (Blameless waits) := by
  refine (boundedSession_ensures Ensures.itself).mono (fun _ _ _ => trivial) ?_
  rintro e st' ⟨f, _, -, -, rfl⟩
  cases f with
  | refused fault =>
    show Blameless waits (.refused (if _ then _ else _)) st'
    split
    · exact blameless_refused id st'
    · exact blameless_internal st'
  | stalled => exact blameless_internal st'
  | panicked => exact blameless_panicked st'

theorem authenticate_blameless {user : User} {password : String}
    (hwaits : st.pool.free = 0 → waits) :
    Ensures (authenticate Serve.verify user password : Serve σ AuthFault Unit) st (fun _ _ => True)
      (Blameless waits) := by
  refine Ensures.bind (Serve.verify_needsPermit.blameless hwaits) ?_
  rintro r st₁ -
  split
  · trivial
  · exact refuse_blameless id
  · exact refuse_blameless id
  · exact internal_ensures fun st' _ => blameless_internal st'

theorem openSession_blameless {user : User} {client : Client} :
    Ensures (s.openSession user client) st (fun _ _ => True) (Blameless waits) := by
  refine Ensures.bind (newRefreshSecret_internal blameless_internal) ?_
  intro secret st₁ _
  refine Ensures.bind (expiryAfter_internal blameless_internal) ?_
  intro expires st₂ _
  refine Ensures.bind (issue_internal blameless_internal) ?_
  intro tokens st₃ _
  refine Ensures.bind boundedSession_blameless ?_
  intro id st₄ _
  exact Serve.report_bind fun _ _ => trivial

/-! ## Operations on well-formed arguments -/

theorem register_blameless {raw password : String} {email : Email}
    (hemail : Email.parse raw = .ok email) (hlong : Password.leastLength ≤ password.length) :
    Ensures (s.register raw password) st (fun _ _ => True) (Blameless (st.pool.free = 0)) := by
  have hpassword : Password.ofText? password = some ⟨password, hlong⟩ := dif_pos hlong
  refine Ensures.bind (requireEmail_accepts hemail) ?_
  rintro _ _ ⟨rfl, rfl⟩
  rw [hpassword]
  refine Ensures.bind (Serve.hash_needsPermit.blameless id) ?_
  rintro (fault | hash) st₁ -
  · exact internal_ensures fun st' _ => blameless_internal st'
  refine Ensures.get_bind (Ensures.bind (Serve.draw_panics.mono (fun _ _ h => h) ?_) ?_)
  · rintro _ st' rfl
    exact blameless_panicked st'
  intro user st₂ _
  refine Ensures.bind bounded_blameless ?_
  intro r st₃ _
  split
  · exact Serve.report_bind fun _ _ => trivial
  · exact refuse_blameless id
  · exact internal_ensures fun st' _ => blameless_internal st'

theorem login_blameless {raw password : String} {client : Client} {email : Email}
    (hemail : Email.parse raw = .ok email) (hthere : password.isEmpty = false) :
    Ensures (s.login raw password client) st (fun _ _ => True) (Blameless (st.pool.free = 0)) := by
  refine Ensures.bind (requireEmail_accepts hemail) ?_
  rintro _ _ ⟨rfl, rfl⟩
  show Ensures (if password.isEmpty then _ else _) _ _ _
  rw [hthere]
  refine Ensures.bind bounded_blameless ?_
  rintro (fault | _ | user) _ ⟨w, rfl⟩
  · exact internal_ensures fun st' _ => blameless_internal st'
  · refine Ensures.bind (equalizeUnknownUser_needsPermit.blameless id) ?_
    intro _ st₁ _
    exact refuse_blameless id
  · refine Ensures.bind (authenticate_blameless id) ?_
    intro _ st₁ _
    exact openSession_blameless

theorem refresh_blameless {raw : String} {client : Client}
    (htext : (Text.trim raw.toList).isEmpty = false) :
    Ensures (s.refresh raw client) st (fun _ _ => True) (Blameless waits) := by
  refine Ensures.bind (requireArgument_presents (required_text _ htext)) ?_
  rintro _ _ ⟨rfl, rfl⟩
  refine Ensures.bind (newRefreshSecret_internal blameless_internal) ?_
  intro secret st₁ _
  refine Ensures.bind (expiryAfter_internal blameless_internal) ?_
  intro expires st₂ _
  refine Ensures.bind boundedSession_blameless ?_
  intro rotated st₃ _
  refine Serve.report_bind fun st₄ _ => ?_
  exact (issue_internal blameless_internal).mono (fun _ _ _ => trivial) fun _ _ h => h

theorem validate_blameless {raw : String} (htext : (Text.trim raw.toList).isEmpty = false) :
    Ensures (s.validate raw) st (fun _ _ => True) (Blameless waits) := by
  refine Ensures.bind (requireArgument_presents (required_text _ htext)) ?_
  rintro _ _ ⟨rfl, rfl⟩
  refine Ensures.get_bind ?_
  split
  · trivial
  · exact blameless_panicked _
  · exact refuse_blameless id

theorem logout_blameless {raw : String} (htext : (Text.trim raw.toList).isEmpty = false) :
    Ensures (s.logout raw) st (fun _ _ => True) (Blameless waits) := by
  refine Ensures.bind (requireArgument_presents (required_text _ htext)) ?_
  rintro _ _ ⟨rfl, rfl⟩
  refine Ensures.bind boundedSession_blameless ?_
  intro _ st₁ _
  exact Serve.report_ensures fun _ _ => trivial

theorem logoutAll_blameless {user : UserId} :
    Ensures (s.logoutAll user) st (fun _ _ => True) (Blameless waits) := by
  refine Ensures.bind boundedSession_blameless ?_
  intro n st₁ _
  exact Serve.report_bind fun _ _ => trivial

/-- **Well-formed arguments are not to blame** for whatever becomes of a request. -/
theorem serve_blameless {q : Request} (h : q.WellFormed) :
    Ensures (s.serve q) st (fun _ _ => True) (Blameless (q.Waits st)) := by
  cases q with
  | register raw password => exact register_blameless h.1.choose_spec h.2
  | login raw password client => exact login_blameless h.1.choose_spec h.2
  | refresh raw client => exact refresh_blameless h
  | validate raw => exact validate_blameless h
  | logout raw => exact logout_blameless h
  | logoutAll user => exact logoutAll_blameless

/-! ## Operations on malformed arguments -/

/-- What is ensured of a request that is refused for its arguments. -/
def RefusesArgument (a : Serve σ AuthFault α) (st : ServiceState σ) : Prop :=
  Ensures a st (fun _ _ => False) fun e _ => e.BlamesArgument

theorem requireEmail_malformed {raw : String} {f : Email → Serve σ AuthFault α}
    (h : ∀ email, Email.parse raw = .ok email → RefusesArgument (f email) st) :
    RefusesArgument (requireEmail raw >>= f) st := by
  refine Ensures.bind (Q := fun email st' => st' = st ∧ Email.parse raw = .ok email) ?_ ?_
  · unfold requireEmail
    split
    · exact ⟨rfl, ‹_›⟩
    · exact Serve.report_bind fun _ _ => trivial
  · rintro email _ ⟨rfl, hemail⟩
    exact h email hemail

theorem requireArgument_malformed {value field : String} {f : String → Serve σ AuthFault α}
    (h : (Text.trim value.toList).isEmpty = true) :
    RefusesArgument (requireArgument value field >>= f) st := by
  unfold requireArgument
  rw [required_blank h]
  trivial

theorem register_malformed {raw password : String}
    (h : ∀ email, Email.parse raw = .ok email → ¬Password.leastLength ≤ password.length) :
    RefusesArgument (s.register raw password) st := by
  refine requireEmail_malformed fun email hemail => ?_
  have hshort : Password.ofText? password = none := dif_neg (h email hemail)
  rw [hshort]
  trivial

theorem login_malformed {raw password : String} {client : Client}
    (h : ∀ email, Email.parse raw = .ok email → password.isEmpty = true) :
    RefusesArgument (s.login raw password client) st := by
  refine requireEmail_malformed fun email hemail => ?_
  show Ensures (if password.isEmpty then _ else _) _ _ _
  rw [if_pos (h email hemail)]
  trivial

/-- **Malformed arguments are blamed**, whatever the state. -/
theorem serve_malformed {q : Request} (h : ¬q.WellFormed) : RefusesArgument (s.serve q) st := by
  cases q with
  | register raw password =>
    exact register_malformed fun email hemail hlong => h ⟨⟨email, hemail⟩, hlong⟩
  | login raw password client =>
    refine login_malformed fun email hemail => ?_
    exact eq_true_of_ne_false fun hthere => h ⟨⟨email, hemail⟩, hthere⟩
  | refresh raw client => exact requireArgument_malformed (eq_true_of_ne_false h)
  | validate raw => exact requireArgument_malformed (eq_true_of_ne_false h)
  | logout raw => exact requireArgument_malformed (eq_true_of_ne_false h)
  | logoutAll user => exact absurd trivial h

/-! ## Both -/

/-- **What becomes of a request**: its arguments are blamed exactly where they are malformed, and where
there is no end, it waits for a permit. -/
theorem serve_blames (q : Request) :
    Ensures (s.serve q) st (fun _ _ => q.WellFormed)
      (fun e _ => (e.BlamesArgument ↔ ¬q.WellFormed) ∧ (e = .stalled → q.Waits st)) := by
  by_cases h : q.WellFormed
  · refine (serve_blameless h).mono (fun _ _ _ => h) ?_
    exact fun e _ he => ⟨iff_of_false he.fault (not_not_intro h), he.stalled⟩
  · refine (serve_malformed h).mono (fun _ _ hx => hx.elim) ?_
    intro e _ he
    refine ⟨iff_of_true he h, ?_⟩
    rintro rfl
    exact he.elim

end Service

end

end SessionAuth
