import SessionAuth.Proofs.Service.Effect
import SessionAuth.Proofs.Store.Memory

/-!
What a refresh costs that fails.

A refresh can fail before, inside and behind the rotation of the session. Before it nothing has been
written, and a rotation that fails has written nothing either, on both stores. What is left is the
signing of the access token. It is the last step, and it fails exactly if the access lifetime leads
to no date; by then the session has been replaced, the old secret is spent, and nobody gets to know
the new one. A login signs before it stores, and loses nothing.

So a failed refresh leaves the sessions as they are, with this one exception
(`failed_refresh_unchanged_iff`), and the exception is real (`refresh_loses_session`).
-/

set_option autoImplicit false

namespace SessionAuth

namespace Service

variable {σ ρ : Type} {s : Service σ} {st : ServiceState σ} {raw : String} {client : Client}

/-- What a refresh does before it signs the access token. -/
def replaceSession (s : Service σ) (raw : String) (client : Client) :
    Serve σ AuthFault (RotatedSession × String × Instant) := do
  let oldSecret ← requireArgument raw "refresh_token"
  let newSecret ← newRefreshSecret
  let expires ← expiryAfter s.settings.refreshLifetime
  let rotated ← s.boundedSession "rotate_session"
    (s.store.rotateSession oldSecret newSecret expires client)
  Serve.report (sessionEvent "Refresh token rotated" rotated.user.id rotated.sessionId)
  return (rotated, newSecret, expires)

theorem refresh_eq : s.refresh raw client
    = s.replaceSession raw client >>= fun r => s.issue r.1.user r.2.1 r.2.2 := by
  unfold refresh replaceSession
  simp only [bind_assoc, pure_bind]

/-- **The session is lost**: it has been replaced, and then no access token can be signed, because
the access lifetime leads to no date. -/
def LosesSession (s : Service σ) (raw : String) (client : Client) (st : ServiceState σ) : Prop :=
  st.world.now.after? s.settings.accessLifetime = none
    ∧ ∃ r, (s.replaceSession raw client st).1 = .ok r

/-! ## Rotation as a whole -/

/-- **A store rotates as a whole**, seen through a view of its sessions: the view changes exactly
where the rotation is done. -/
def RotatesWhole (store : Store σ) (view : σ → ρ) (w : World σ) : Prop :=
  ∀ oldSecret newSecret expires client,
    Ensures (store.rotateSession oldSecret newSecret expires client) w
      (fun _ w' => w'.now = w.now ∧ view w'.store ≠ view w.store)
      (fun _ w' => view w'.store = view w.store)

variable {view : σ → ρ}

theorem replaceSession_ensures
    (h : ∀ w : World σ, w.store = st.world.store → RotatesWhole s.store view w) :
    Ensures (s.replaceSession raw client) st
      (fun _ st' => st'.world.now = st.world.now ∧ view st'.world.store ≠ view st.world.store)
      (fun _ st' => view st'.world.store = view st.world.store) := by
  refine Ensures.bind_mono requireArgument_ensures ?_ ?_
  · rintro _ st₀ rfl
    rfl
  rintro oldSecret st₀ ⟨rfl, -⟩
  refine Ensures.bind_mono newRefreshSecret_ensures (fun _ _ hq => congrArg view hq.1.store) ?_
  rintro newSecret st₁ ⟨h₁, -⟩
  refine Ensures.bind_mono expiryAfter_ensures
    (fun _ _ hq => congrArg view (h₁.trans hq.1).store) ?_
  rintro expires st₁ ⟨rfl, -⟩
  rw [← h₁.store, ← h₁.now]
  refine Ensures.bind_mono (boundedSession_ensures
    (h st₁.world h₁.store oldSecret newSecret expires client)) ?_ ?_
  · rintro _ st₂ ⟨_, w, hw, hst₂, -⟩
    rw [hst₂]
    exact hw
  · rintro r _ ⟨w, rfl, hnow, hw⟩
    refine Serve.report_bind fun st₂ h₂ => ⟨h₂.now.trans hnow, ?_⟩
    rw [h₂.store]
    exact hw

/-- **What a failed refresh costs**: it leaves the sessions as they are, except where it loses one. -/
theorem refresh_failed_iff
    (h : ∀ w : World σ, w.store = st.world.store → RotatesWhole s.store view w) :
    Ensures (s.refresh raw client) st (fun _ _ => ¬s.LosesSession raw client st)
      (fun _ st' => view st'.world.store = view st.world.store ↔ ¬s.LosesSession raw client st) := by
  have hreplaced : Ensures (s.replaceSession raw client) st _ _ := replaceSession_ensures h
  unfold LosesSession
  unfold Ensures at hreplaced ⊢
  rw [refresh_eq, bind_apply]
  rcases hr : s.replaceSession raw client st with ⟨e | r, st₁⟩ <;> rw [hr] at hreplaced
  · exact ⟨fun _ ⟨_, _, h⟩ => (nomatch h), fun _ => hreplaced⟩
  · obtain ⟨hnow, hview⟩ := hreplaced
    -- the session has been replaced: what comes of the signing decides, and that is up to the clock
    refine issue_ensures.mono ?_ ?_
    · rintro tokens st₂ ⟨-, -, -, -, hdate⟩ ⟨hnone, -⟩
      rw [hnow] at hdate
      exact hdate hnone
    · rintro e st₂ ⟨h₂, hnone⟩
      rw [hnow] at hnone
      rw [h₂.store]
      exact ⟨fun h => absurd h hview, fun h => absurd ⟨hnone, r, rfl⟩ h⟩

/-! ## A refresh that nothing else stands in the way of -/

section Drawn

variable {secret newSecret : String} {rest : RandomSource}

/-- What a replacement comes to is up to the rotation, where all else is there. -/
theorem replaceSession_drawn {P : RotatedSession → World σ → Prop}
    {G : Failure SessionFault → World σ → Prop} (hraw : Presents raw secret)
    (hdraw : RefreshSecret.draw? st.world.random = some (newSecret, rest))
    (hdate : st.world.now.after? s.settings.refreshLifetime ≠ none)
    (hrotate : ∀ expires, Ensures (s.store.rotateSession secret newSecret expires client)
      { st.world with random := rest } P G) :
    Ensures (s.replaceSession raw client) st (fun r st' => ∃ w, P r.1 w ∧ st'.world.now = w.now)
      (fun e st' => ∃ f w, G f w ∧ st'.world.store = w.store ∧ e = failureOf f) := by
  refine Ensures.bind (requireArgument_presents hraw) ?_
  rintro _ st₀ ⟨rfl, rfl⟩
  refine Ensures.bind (newRefreshSecret_drawn hdraw) ?_
  rintro _ _ ⟨rfl, rfl⟩
  refine Ensures.bind (expiryAfter_ensures.mono (fun _ _ h => h.1)
    fun _ _ h => absurd h.2 hdate) ?_
  rintro expires _ rfl
  refine Ensures.bind (boundedSession_ensures (hrotate expires)) ?_
  rintro r _ ⟨w, rfl, hr⟩
  exact Serve.report_bind fun st₂ h₂ => ⟨w, hr, h₂.now⟩

/-- A session is replaced where nothing stands in the way. -/
theorem replaceSession_done (hraw : Presents raw secret)
    (hdraw : RefreshSecret.draw? st.world.random ≠ none)
    (hdate : st.world.now.after? s.settings.refreshLifetime ≠ none)
    (hrotate : ∀ newSecret expires (w : World σ), w.store = st.world.store → w.now = st.world.now →
      Ensures (s.store.rotateSession secret newSecret expires client) w (fun _ _ => True)
        (fun _ _ => False)) :
    Ensures (s.replaceSession raw client) st (fun _ _ => True) (fun _ _ => False) := by
  obtain ⟨⟨newSecret, rest⟩, hdrawn⟩ := Option.ne_none_iff_exists'.mp hdraw
  have hdone : Ensures (s.replaceSession raw client) st _ _ :=
    replaceSession_drawn hraw hdrawn hdate fun expires => hrotate newSecret expires _ rfl rfl
  exact hdone.mono (fun _ _ _ => trivial) fun _ _ ⟨_, _, h, _⟩ => h

/-- A refresh succeeds if the session is replaced. -/
theorem refresh_accepted (hraw : Presents raw secret)
    (hdraw : RefreshSecret.draw? st.world.random = some (newSecret, rest))
    (hrefresh : st.world.now.after? s.settings.refreshLifetime ≠ none)
    (haccess : st.world.now.after? s.settings.accessLifetime ≠ none)
    (hrotate : ∀ expires, Ensures (s.store.rotateSession secret newSecret expires client)
      { st.world with random := rest } (fun _ w => w.now = st.world.now) (fun _ _ => False)) :
    Ensures (s.refresh raw client) st (fun _ _ => True) (fun _ _ => False) := by
  rw [refresh_eq]
  refine Ensures.bind_mono (replaceSession_drawn hraw hdraw hrefresh hrotate)
    (fun _ _ ⟨_, _, h, _⟩ => h) ?_
  rintro r st₁ ⟨w, hw, hnow⟩
  refine issue_ensures.mono (fun _ _ _ => trivial) ?_
  rintro e _ ⟨-, hnone⟩
  rw [hnow, hw] at hnone
  exact haccess hnone

/-- A refresh fails with what the failure of the rotation is to the service, and leaves the store as the
rotation does. -/
theorem refresh_refused {G : SessionFault → World σ → Prop} (hraw : Presents raw secret)
    (hdraw : RefreshSecret.draw? st.world.random = some (newSecret, rest))
    (hrefresh : st.world.now.after? s.settings.refreshLifetime ≠ none)
    (hrotate : ∀ expires, Ensures (s.store.rotateSession secret newSecret expires client)
      { st.world with random := rest } (fun _ _ => False)
      (fun e w => ∃ fault, G fault w ∧ e = .refused fault)) :
    Ensures (s.refresh raw client) st (fun _ _ => False)
      (fun e st' => ∃ fault w, G fault w ∧ st'.world.store = w.store
        ∧ e = failureOf (.refused fault)) := by
  rw [refresh_eq]
  refine Ensures.bind_mono (replaceSession_drawn hraw hdraw hrefresh hrotate) ?_
    fun _ _ ⟨_, h, _⟩ => h.elim
  rintro _ _ ⟨_, w, ⟨fault, hfault, rfl⟩, hstore, rfl⟩
  exact ⟨fault, w, hfault, hstore, rfl⟩

/-- It is refused as one with an invalid token if the session is one that is not replaced. -/
theorem refresh_rejected (hraw : Presents raw secret)
    (hdraw : RefreshSecret.draw? st.world.random = some (newSecret, rest))
    (hrefresh : st.world.now.after? s.settings.refreshLifetime ≠ none)
    (hrotate : ∀ expires, Ensures (s.store.rotateSession secret newSecret expires client)
      { st.world with random := rest } (fun _ _ => False)
      (fun e _ => ∃ fault, fault.isRejection = true ∧ e = .refused fault)) :
    Ensures (s.refresh raw client) st (fun _ _ => False)
      (fun e _ => e = .refused .invalidRefreshToken) := by
  refine (refresh_refused hraw hdraw hrefresh hrotate).mono (fun _ _ h => h) ?_
  rintro _ _ ⟨fault, _, hfault, -, rfl⟩
  rw [failureOf, if_pos hfault]

end Drawn

end Service

/-! ## Both stores -/

theorem Relational.rotatesWhole {w : World Database} (lockTimeout : Duration)
    (hw : w.store.Ready) :
    Service.RotatesWhole (Relational.store lockTimeout) (fun db => db.settled.sessions) w := by
  intro oldSecret newSecret expires client
  refine (Relational.rotateSession_ensures hw.idle hw.faithful).mono ?_ ?_
  · rintro r w' ⟨⟨⟨old, hrot⟩, hnow⟩, hdone⟩
    refine ⟨hnow, fun heq => ?_⟩
    have hlength : w'.store.settled.sessions.length = w.store.settled.sessions.length :=
      congrArg List.length heq
    rw [hdone.settled, hw.settled, (Database.insertSession_ok hrot.replaced).1] at hlength
    rw [List.length_append, Database.revoke_sessions, List.length_map] at hlength
    simp at hlength
  · intro e w' hundone
    show w'.store.settled.sessions = w.store.settled.sessions
    rw [hundone.settled, hw.settled]

theorem MemoryStore.rotatesWhole (w : World MemoryStore) :
    Service.RotatesWhole MemoryStore.store (·.sessions) w := by
  intro oldSecret newSecret expires client
  refine MemoryStore.rotateSession_ensures.mono ?_ fun _ _ h => h
  rintro r w' ⟨hnow, hlength⟩
  refine ⟨hnow, fun heq => ?_⟩
  have hsame : w'.store.sessions.length = w.store.sessions.length := congrArg List.length heq
  omega

/-- **A failed refresh leaves the sessions as they are, unless it loses one**, on either store: whatever
the store holds and whatever goes wrong with it, and for every clock, random source and setting. -/
theorem failed_refresh_unchanged_iff (raw : String) (client : Client) :
    (∀ (s : TableService) (o : Occasion Database.Condition) (st : ServiceState Database),
      Ensures (s.service.refresh raw client) (st.meet Database.meet o) (fun _ _ => True)
        fun _ st' => st'.tables.sessions = st.tables.sessions
          ↔ ¬s.service.LosesSession raw client (st.meet Database.meet o))
    ∧ ∀ (signer : TokenSigner) (settings : AuthSettings) (st : ServiceState MemoryStore),
      Ensures (Service.refresh ⟨MemoryStore.store, signer, settings⟩ raw client) st
        (fun _ _ => True)
        fun _ st' => st'.world.store.sessions = st.world.store.sessions
          ↔ ¬Service.LosesSession ⟨MemoryStore.store, signer, settings⟩ raw client st := by
  refine ⟨fun s o st => ?_, fun signer settings st => ?_⟩
  · have hwhole : ∀ w : World Database, w.store = (st.meet Database.meet o).world.store →
        Service.RotatesWhole s.service.store (fun db => db.settled.sessions) w := by
      intro w hw
      refine Relational.rotatesWhole s.lockTimeout ?_
      rw [hw]
      exact Database.meet_ready _ _
    exact (Service.refresh_failed_iff hwhole).mono (fun _ _ _ => trivial) fun _ _ h => h
  · exact (Service.refresh_failed_iff fun w _ => MemoryStore.rotatesWhole w).mono
      (fun _ _ _ => trivial) fun _ _ h => h

/-! ### A session that is lost -/

/-- A service whose access tokens would be good for as many seconds as a machine word holds. -/
def longLived : Service MemoryStore where
  store := MemoryStore.store
  signer := ⟨[], "issuer"⟩
  settings := { accessLifetime := .ofSeconds 18446744073709551615 }

/-- Its only user. -/
def loser : User where
  id := ⟨.ofNat 2⟩
  email := ⟨"a@example.com"⟩
  passwordHash := ""
  emailVerifiedAt := none
  createdAt := .epoch
  updatedAt := .epoch

/-- The session of the user, for the secret `abc`. -/
def lostSession : Session where
  id := ⟨.ofNat 1⟩
  userId := loser.id
  digest := RefreshSecret.digest "abc"
  createdAt := .epoch
  expiresAt := .ofSeconds 60
  revokedAt := none
  client := ⟨none, none⟩
  rotatedFrom := none

/-- Its state. -/
@[irreducible]
def beforeLoss : ServiceState MemoryStore where
  world :=
    { now := .epoch
      random := ⟨.ofSeed 1, none⟩
      events := []
      store := { users := [loser], sessions := [lostSession] } }
  pool := ⟨⟨.standard, HashCost.flaw?_standard⟩, 1⟩
  dummyHash := none

theorem longLived_losesSession : longLived.LosesSession "abc" ⟨none, none⟩ beforeLoss := by
  have hnow : beforeLoss.world.now = .epoch := by
    unfold beforeLoss
    rfl
  have hraw : Presents "abc" "abc" := by
    unfold Presents
    rfl
  have hdraw : RefreshSecret.draw? beforeLoss.world.random ≠ none := by
    unfold beforeLoss
    exact nofun
  have hdate : beforeLoss.world.now.after? longLived.settings.refreshLifetime ≠ none := by
    rw [hnow]
    decide
  have hdone : Ensures (longLived.replaceSession "abc" ⟨none, none⟩) beforeLoss (fun _ _ => True)
      (fun _ _ => False) := by
    refine Service.replaceSession_done hraw hdraw hdate fun newSecret expires w hw hwnow => ?_
    have hstore : w.store = { users := [loser], sessions := [lostSession] } := by
      rw [hw]
      unfold beforeLoss
      rfl
    have hold : w.store.sessionOf? "abc" = some lostSession := by
      rw [hstore]
      exact List.find?_cons_of_pos (beq_self_eq_true _)
    have huser : w.store.users.find? (·.id == lostSession.userId) = some loser := by
      rw [hstore]
      rfl
    refine MemoryStore.rotateSession_active ?_ hold ?_ huser
    · rw [hstore]
    · rw [hwnow, hnow]
      rfl
  refine ⟨by rw [hnow]; decide, ?_⟩
  exact (hdone.mono (fun r _ _ => ⟨r, rfl⟩) fun _ _ h => h.elim).ending
    (P := fun ended _ => ∃ r, ended = .ok r)

/-- **A refresh that fails can lose the session**: this one fails, and the sessions are no longer what
they were. -/
theorem refresh_loses_session :
    (∃ e, (longLived.refresh "abc" ⟨none, none⟩ beforeLoss).1 = .error e)
      ∧ (longLived.refresh "abc" ⟨none, none⟩ beforeLoss).2.world.store.sessions
          ≠ beforeLoss.world.store.sessions := by
  have hiff : Ensures (longLived.refresh "abc" ⟨none, none⟩) beforeLoss _ _ :=
    Service.refresh_failed_iff fun w _ => MemoryStore.rotatesWhole w
  refine (hiff.mono (fun _ _ hkept => absurd longLived_losesSession hkept) ?_).ending
    (P := fun ended st' => (∃ e, ended = .error e)
      ∧ st'.world.store.sessions ≠ beforeLoss.world.store.sessions)
  intro e st' hsame
  exact ⟨⟨e, rfl⟩, fun heq => hsame.mp heq longLived_losesSession⟩

end SessionAuth
