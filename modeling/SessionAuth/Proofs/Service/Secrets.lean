import SessionAuth.Proofs.Service.Calls
import SessionAuth.Proofs.Service.Honoured
import SessionAuth.Proofs.Session.Secret

/-!
A refresh secret on its way to a client and back.

What is handed out is the text of random bytes, and what is stored of it is its digest. When the secret
comes back, with or without white space around it, the service finds the same text again, whatever the
store (`refresh_padded`, `logout_padded`). In the tables its session is looked for by a digest, and this
is the one that was stored.

For that the statements are looked at which a request sends. `Asks` bounds them from above: whatever
becomes of them, no session is looked for by any other digest (`TableService.visit_wanted`). From below, a
database in which nothing goes wrong is in fact asked for this one (`TableService.visit_asks`).
-/

set_option autoImplicit false

namespace SessionAuth

open Database (Condition Statement QueryFault SessionRow Tables)

variable {σ : Type}

/-! ## What is found of a secret -/

namespace Service

variable {b : Bytes} {raw : String}

theorem requireArgument_padded (hb : b.length = RefreshSecret.byteCount)
    (hraw : Text.Padded raw (RefreshSecret.ofBytes b)) (field : String) :
    (requireArgument raw field : Serve σ AuthFault String)
      = requireArgument (RefreshSecret.ofBytes b) field := by
  unfold requireArgument
  rw [RefreshSecret.required_padded field hb hraw, RefreshSecret.required_padded field hb (.refl _)]

variable {s : Service σ}

/-- White space around a secret makes no difference to a refresh, whatever the store. -/
theorem refresh_padded (hb : b.length = RefreshSecret.byteCount)
    (hraw : Text.Padded raw (RefreshSecret.ofBytes b)) (client : Client) :
    s.refresh raw client = s.refresh (RefreshSecret.ofBytes b) client := by
  unfold refresh
  rw [requireArgument_padded hb hraw]

/-- Nor does it to a logout. -/
theorem logout_padded (hb : b.length = RefreshSecret.byteCount)
    (hraw : Text.Padded raw (RefreshSecret.ofBytes b)) :
    s.logout raw = s.logout (RefreshSecret.ofBytes b) := by
  unfold logout
  rw [requireArgument_padded hb hraw]

end Service

/-! ## What is asked of the database -/

namespace Database

variable {w : World Database} {s : Statement} {D : Bytes → Prop}

/-- **A database is sent a statement**, and nothing else; or it is silent, and nothing is sent. -/
def IsSent (s : Statement) (db db' : Database) : Prop :=
  db'.log = db.log ++ [s] ∨ db.answers = false ∧ db'.log = db.log

/-- A statement is sent whatever becomes of it. -/
theorem execute_isSent (s : Statement) :
    EndsIn (fun w' => IsSent s w.store w'.store) (execute s) w := by
  have hperform : EndsIn (fun w' => IsSent s w.store w'.store) (perform s) (sent s w) := by
    cases hs : s.isBoundary with
    | true =>
      refine perform_boundary hs (.inl ?_)
      cases s <;> rfl
    | false =>
      refine (perform_ensures hs).mono ?_ ?_
      · rintro _ _ ⟨t, -, rfl⟩
        exact .inl rfl
      · rintro _ _ ⟨rfl, -⟩
        exact .inl rfl
  exact execute_ensures (fun hsilent => .inr ⟨hsilent, rfl⟩) (fun _ => .inl rfl)
    (fun _ _ => .inl rfl) (fun _ => .inl rfl) (fun _ _ => hperform) fun _ => hperform

/-- What is sent to a database that answers is in its log. -/
theorem IsSent.mem {db db' : Database} (h : IsSent s db db') (hanswers : db.answers = true) :
    s ∈ db'.log := by
  rcases h with hlog | ⟨hsilent, -⟩
  · rw [hlog]
    exact List.mem_append_right _ (List.mem_singleton_self s)
  · rw [hanswers] at hsilent
    cases hsilent

/-- **What a database is asked**: more statements have been sent, and those among them that look for a
session look for it by a digest of a kind. -/
def Asks (D : Bytes → Prop) (db db' : Database) : Prop :=
  ∃ l, db'.log = db.log ++ l ∧ ∀ s ∈ l, ∀ d ∈ s.wanted?, D d

/-- Statements that look for such digests ask for nothing else. -/
theorem asks_steps (D : Bytes → Prop) : StepsAlong D (Asks D) where
  refl db := ⟨[], (List.append_nil _).symm, nofun⟩
  trans a b c hab hbc := by
    obtain ⟨l, hl, hD⟩ := hab
    obtain ⟨l', hl', hD'⟩ := hbc
    refine ⟨l ++ l', by rw [hl', hl, List.append_assoc], fun s hs => ?_⟩
    exact (List.mem_append.mp hs).elim (hD s) (hD' s)
  execute s hs := by
    refine Keeps.of_step fun w => ?_
    rcases (execute_isSent (w := w) s).state with hlog | ⟨-, hlog⟩
    · refine ⟨[s], hlog, fun s' hs' => ?_⟩
      rw [List.mem_singleton.mp hs']
      exact hs
    · exact ⟨[], hlog.trans (List.append_nil _).symm, nofun⟩

/-- What has been asked stays asked. -/
theorem Asks.mem {db db' : Database} (h : Asks D db db') (hs : s ∈ db.log) : s ∈ db'.log := by
  obtain ⟨l, hl, -⟩ := h
  rw [hl]
  exact List.mem_append_left l hs

/-- A database that answers has been asked. -/
theorem execute_asks (hanswers : w.store.answers = true) (s : Statement) :
    EndsIn (fun w' => s ∈ w'.store.log) (execute s) w :=
  (execute_isSent s).mono (fun _ _ h => h.mem hanswers) fun _ _ h => h.mem hanswers

section Then

variable {ε δ α β : Type} {a : Act Database ε α} {f : α → Act Database ε β}

/-- What is done behind a statement does not take it back. -/
theorem asks_then (ha : EndsIn (fun w' => s ∈ w'.store.log) a w)
    (hf : ∀ x, Keeps (World.Moves (Asks fun _ => True)) (f x)) :
    EndsIn (fun w' => s ∈ w'.store.log) (a >>= f) w := by
  refine Ensures.bind ha fun x w' hs => ?_
  exact (hf x w').mono (fun _ _ h => h.mem hs) fun _ _ h => h.mem hs

/-- What is asked for inside a transaction is asked for, if the transaction is opened. -/
theorem inTransaction_asks {ofQuery : QueryFault → ε} {a : Act Database ε (Except ε α)}
    (hw : w.store.Fair)
    (ha : EndsIn (fun w' => s ∈ w'.store.log) a { w with store := bounded .start w.store }) :
    EndsIn (fun w' => s ∈ w'.store.log) (inTransaction ofQuery a) w := by
  have h := asks_steps fun _ => True
  refine asks_then (orAbandon_ensures ?_) ?_
  · have hrest : ∀ w' : World Database, s ∈ w'.store.log →
        s ∈ (Database.execute .rollback w').2.store.log :=
      fun w' hs => ((h.execute .rollback nofun).step w').mem hs
    refine Ensures.bind (mapFault_ensures ((execute_boundary_fair rfl hw).mono (fun _ _ h => h)
      fun _ _ h => h.elim)) ?_
    rintro _ _ rfl
    refine (asks_then ha ?_).mono (fun _ _ h => h) fun _ w' => hrest w'
    rintro (fault | x)
    · exact h.pure _
    · exact h.bind (StepsAlong.mapFault (h.execute .commit nofun)) fun _ => h.pure _
  · rintro (fault | x)
    · exact h.bind h.rollBack fun _ => h.refuse fault
    · exact h.pure x

end Then

end Database

namespace Relational

variable {w : World Database} {secret : String}

/-- **A logout asks for the session of the secret**, if the database answers. -/
theorem revokeSession_asks (hanswers : w.store.answers = true) :
    EndsIn (fun w' => .revokeByDigest (RefreshSecret.digest secret) ∈ w'.store.log)
      (revokeSession secret) w := by
  have h := Database.asks_steps fun _ => True
  have hsent := Database.execute_asks hanswers (.revokeByDigest (RefreshSecret.digest secret))
  refine Database.asks_then (Database.mapFault_ensures hsent) fun revoked => ?_
  split
  · exact h.refuse _
  · exact h.pure _

/-- **A rotation asks for the session of the old secret**, if nothing goes wrong before. -/
theorem rotateSession_asks (hw : w.store.Fair) {limit : Duration} {newSecret : String}
    {expiresAt : Instant} {client : Client} :
    EndsIn (fun w' => .lockSession (RefreshSecret.digest secret) ∈ w'.store.log)
      (rotateSession limit secret newSecret expiresAt client) w := by
  have h := Database.asks_steps fun _ => True
  have hopen : (Database.bounded .start w.store).Fair := Database.bounded_fair hw
  rw [rotateSession_eq]
  refine Database.inTransaction_asks hw (Ensures.bind_mono (execute_fair rfl hopen rfl)
    (fun _ _ h => h.elim) ?_)
  rintro _ w₁ ⟨hin, -, -⟩
  have hsent := Database.execute_asks (hin.fair hopen).answers
    (.lockSession (RefreshSecret.digest secret))
  have hfetched : EndsIn (fun w' => .lockSession (RefreshSecret.digest secret) ∈ w'.store.log)
      (fetch (.lockSession (RefreshSecret.digest secret))) w₁ :=
    Database.mapFault_ensures (Database.asks_then hsent fun _ => h.pure _)
  refine Database.asks_then hfetched ?_
  rintro (_ | row)
  · exact h.pure _
  · exact h.bind (h.ofExcept _) fun old => h.replaceSession old newSecret

end Relational

/-! ## Requests -/

/-- **A request brings a secret back**, for new tokens or for a logout, with white space around it or
without. -/
def Request.Returns (secret : String) : Request → Prop
  | .refresh raw _ | .logout raw => Text.Padded raw secret
  | _ => False

/-- What is presented in a request that brings a secret back is the secret. -/
theorem Request.Returns.presents {b : Bytes} {q : Request} (hb : b.length = RefreshSecret.byteCount)
    (h : q.Returns (RefreshSecret.ofBytes b)) : q.Presents (RefreshSecret.ofBytes b) := by
  cases q with
  | refresh raw client => exact RefreshSecret.required_padded _ hb h
  | logout raw => exact RefreshSecret.required_padded _ hb h
  | _ => exact h.elim

section Calls

variable {s : Service σ} {st : ServiceState σ} {raw secret newSecret : String}
  {rest : RandomSource} {client : Client} {expires : Instant} {P : σ → Prop}

/-- A refresh for which a secret can be drawn and a date be found calls for the rotation. -/
theorem Service.refresh_calls (hraw : Presents raw secret)
    (hdraw : RefreshSecret.draw? st.world.random = some (newSecret, rest))
    (hdate : st.world.now.after? s.settings.refreshLifetime = some expires)
    (hP : P (s.store.rotateSession secret newSecret expires client
      { st.world with random := rest }).2.store) :
    EndsIn (fun st' => P st'.world.store) (s.refresh raw client) st := by
  refine Ensures.bind (requireArgument_presents hraw) ?_
  rintro _ st₀ ⟨rfl, rfl⟩
  refine Ensures.bind (newRefreshSecret_drawn hdraw) ?_
  rintro _ _ ⟨rfl, rfl⟩
  refine Ensures.bind_mono expiryAfter_ensures (fun _ _ h => ?_) ?_
  · exact nomatch h.2.symm.trans hdate
  rintro expires' _ ⟨rfl, hexpires⟩
  obtain rfl := Option.some.inj (hexpires.symm.trans hdate)
  refine Ensures.bind_mono boundedSession_leaves (fun _ _ h => of_store_eq h hP) fun r st₂ h₂ => ?_
  refine Serve.report_bind fun st₃ h₃ => issue_ensures.mono ?_ ?_
  · rintro _ _ ⟨rfl, -⟩
    exact of_store_eq (h₃.store.trans h₂) hP
  · rintro _ _ ⟨h₄, -⟩
    exact of_store_eq ((h₃.trans h₄).store.trans h₂) hP

/-- A logout calls for the end of the session. -/
theorem Service.logout_calls (hraw : Presents raw secret)
    (hP : P (s.store.revokeSession secret st.world).2.store) :
    EndsIn (fun st' => P st'.world.store) (s.logout raw) st := by
  refine Ensures.bind (requireArgument_presents hraw) ?_
  rintro _ st₀ ⟨rfl, rfl⟩
  refine Ensures.bind_mono boundedSession_leaves (fun _ _ h => of_store_eq h hP) fun _ st₁ h₁ => ?_
  exact Serve.report_ensures fun _ h => of_store_eq (h.store.trans h₁) hP

end Calls

/-- What a request asks that presents a secret: of its calls, only those for this secret look for a
session. -/
theorem Request.Leaves.asks {limit : Duration} {w : World Database} {q : Request} {left : Database}
    {secret : String} (h : q.Leaves (Relational.store limit) w left) (hq : q.Presents secret) :
    Database.Asks (· = RefreshSecret.digest secret) w.store left := by
  have hsteps := Database.asks_steps (· = RefreshSecret.digest secret)
  cases h with
  | untouched => exact hsteps.refl _
  | @rotated raw secret' newSecret client expires w₁ hw hsecret =>
    obtain rfl : secret' = secret := Except.ok.inj (hsecret.symm.trans hq)
    rw [← hw.store]
    exact (hsteps.rotateSession limit rfl newSecret).step w₁
  | @ended raw secret' w₁ hw hsecret =>
    obtain rfl : secret' = secret := Except.ok.inj (hsecret.symm.trans hq)
    rw [← hw.store]
    exact (hsteps.revokeSession rfl).step w₁
  | _ => exact hq.elim

namespace TableService

variable {s : TableService} {o : Occasion Condition} {st : ServiceState Database}

/-- **No other session is looked for** than that of the secret which is presented. -/
theorem visit_wanted {secret : String} (hq : o.request.Presents secret) :
    ∀ x ∈ (s.visit o st).2.world.store.log, ∀ d ∈ x.wanted?, d = RefreshSecret.digest secret := by
  obtain ⟨l, hl, hD⟩ := (Service.visit_leaves (s := s.service) Database.meet o st).asks hq
  -- the log is empty when the request starts, so that all of it has been sent for the request
  have hlog : (s.visit o st).2.world.store.log = l := hl
  rw [hlog]
  exact hD

theorem refresh_asks {raw secret : String} {client : Client} (hst : st.world.store.Fair)
    (hdraw : RefreshSecret.draw? st.world.random ≠ none)
    (hdate : st.world.now.after? s.settings.refreshLifetime ≠ none) (hraw : Presents raw secret) :
    EndsIn (fun st' => .lockSession (RefreshSecret.digest secret) ∈ st'.world.store.log)
      (s.service.refresh raw client) st := by
  obtain ⟨⟨newSecret, rest⟩, hdrawn⟩ := Option.ne_none_iff_exists'.mp hdraw
  obtain ⟨expires, hexpires⟩ := Option.ne_none_iff_exists'.mp hdate
  have hlocked : EndsIn (fun w => .lockSession (RefreshSecret.digest secret) ∈ w.store.log)
      (Relational.rotateSession s.lockTimeout secret newSecret expires client)
      { st.world with random := rest } :=
    Relational.rotateSession_asks (w := { st.world with random := rest }) hst
  exact Service.refresh_calls (s := s.service)
    (P := fun db => .lockSession (RefreshSecret.digest secret) ∈ db.log) hraw hdrawn hexpires
    hlocked.state

theorem logout_asks {raw secret : String} (hst : st.world.store.answers = true)
    (hraw : Presents raw secret) :
    EndsIn (fun st' => .revokeByDigest (RefreshSecret.digest secret) ∈ st'.world.store.log)
      (s.service.logout raw) st := by
  have hrevoked : EndsIn (fun w => .revokeByDigest (RefreshSecret.digest secret) ∈ w.store.log)
      (Relational.revokeSession secret) st.world := Relational.revokeSession_asks hst
  exact Service.logout_calls (s := s.service)
    (P := fun db => .revokeByDigest (RefreshSecret.digest secret) ∈ db.log) hraw hrevoked.state

/-- **It is looked for**, where nothing goes wrong. -/
theorem visit_asks {secret : String} (hq : o.request.Presents secret) (ho : o.Fair s) :
    ∃ x ∈ (s.visit o st).2.world.store.log, x.wanted? = some (RefreshSecret.digest secret) := by
  have hfair : (st.meet Database.meet o).world.store.Fair :=
    Database.meet_fair ho.answers ho.undisturbed
  have hdraw := RefreshSecret.draw?_ne_none ho.random
  have hdate := ho.lifetime
  obtain ⟨q, now, random, condition⟩ := o
  cases q with
  | refresh raw client => exact ⟨_, (refresh_asks hfair hdraw hdate hq).state, rfl⟩
  | logout raw => exact ⟨_, (logout_asks hfair.answers hq).state, rfl⟩
  | _ => exact hq.elim

end TableService

/-! ## There and back -/

/-- **Refresh secrets come back as they were issued**:

* for 32 bytes that are drawn, the secret is a text of 43 letters, digits, hyphens and low lines, which is
  read as these bytes;
* other bytes have another secret;
* with white space around it, in front, behind or both, the secret is still the argument that is found, so
  that a refresh and a logout do what they do with the secret alone, whatever the store;
* on the tables, the digest of an issued secret is stored with its session and stays there, whatever is
  asked of the service then. When the secret comes back, no session is looked for by any other digest,
  however the request ends; and by this digest one is looked for, if nothing else goes wrong.

A refresh may fail before it looks for the session, when no new secret can be drawn or the database is
silent. This is all that the last premise is for. -/
theorem refresh_secrets_come_back :
    (∀ (r rest : RandomSource) (b : Bytes), r.draw? 32 = some (b, rest) →
      RefreshSecret.draw? r = some (RefreshSecret.ofBytes b, rest)
        ∧ (RefreshSecret.ofBytes b).length = 43
        ∧ (∀ c ∈ (RefreshSecret.ofBytes b).toList, RefreshSecret.IsSign c)
        ∧ Base64.decode .urlSafe (Utf8.ofString (RefreshSecret.ofBytes b)) = .ok b)
    ∧ Function.Injective RefreshSecret.ofBytes
    ∧ (∀ b : Bytes, b.length = 32 → ∀ raw, Text.Padded raw (RefreshSecret.ofBytes b) →
      (∀ field, Service.required raw field = .ok (RefreshSecret.ofBytes b))
        ∧ ∀ {σ : Type} (s : Service σ) (client : Client),
          s.refresh raw client = s.refresh (RefreshSecret.ofBytes b) client
            ∧ s.logout raw = s.logout (RefreshSecret.ofBytes b))
    ∧ ∀ (s : TableService) (start : ServiceState Database) (o : Occasion Condition)
      (tokens : IssuedTokens), (s.visit o start).1.issued? = some tokens →
      ∃ (i : Nat) (row : SessionRow), (s.visit o start).2.tables.sessions[i]? = some row
        ∧ row.digest = RefreshSecret.digest tokens.refreshToken
        ∧ ∀ (later : List (Occasion Condition)) (o' : Occasion Condition),
          o'.request.Returns tokens.refreshToken →
          let st := (s.run later (s.visit o start).2).2
          (∃ row', st.tables.sessions[i]? = some row' ∧ row'.digest = row.digest)
            ∧ (∀ x ∈ (s.visit o' st).2.world.store.log, ∀ d ∈ x.wanted?, d = row.digest)
            ∧ (o'.Fair s → ∃ x ∈ (s.visit o' st).2.world.store.log, x.wanted? = some row.digest) := by
  refine ⟨fun r rest b hdraw => ?_, RefreshSecret.ofBytes_injective, fun b hb raw hraw => ?_, ?_⟩
  · have hlength : b.length = RefreshSecret.byteCount := RandomSource.length_of_draw? hdraw
    exact ⟨RefreshSecret.draw?_of_draw? hdraw, RefreshSecret.length_ofBytes hlength,
      fun c => RefreshSecret.isSign_of_mem, RefreshSecret.decode_ofBytes b⟩
  · exact ⟨fun field => RefreshSecret.required_padded field hb hraw,
      fun s client => ⟨Service.refresh_padded hb hraw client, Service.logout_padded hb hraw⟩⟩
  · intro s start o tokens htokens
    obtain ⟨client, user, accessEnd, -, -, hfor, row, happends, hstores, -⟩ :=
      Store.Records.visit (s := s.service) (Relational.records s.lockTimeout) o start htokens
    refine ⟨_, row, happends.last, hstores.digest, fun later o' hreturns => ?_⟩
    obtain ⟨b, hb, hsecret⟩ := hfor.refreshToken
    rw [hstores.digest]
    rw [hsecret] at hreturns ⊢
    have hpresents := hreturns.presents hb
    have hlater : (s.visit o start).2.tables.AppendOnly (s.run later (s.visit o start).2).2.tables :=
      TableService.run_moves Tables.AppendOnly.statements later _
    obtain ⟨row', hrow', hpersists⟩ := hlater.sessions _ row happends.last
    refine ⟨⟨row', hrow', ?_⟩, TableService.visit_wanted hpresents,
      TableService.visit_asks hpresents⟩
    rw [hpersists.digest, hstores.digest, hsecret]

/-- The secret that somebody was given comes back with a blank and a line break around it. -/
theorem refresh_secrets_come_back_renewed :
    (∃ b rest, RandomSource.draw? ⟨.ofSeed 2, none⟩ 32 = some (b, rest)
      ∧ RefreshSecret.draw? ⟨.ofSeed 2, none⟩ = some (RefreshSecret.ofBytes b, rest)
      ∧ (RefreshSecret.ofBytes b).length = 43
      ∧ Service.required (" " ++ RefreshSecret.ofBytes b ++ "\n") "refresh_token"
        = .ok (RefreshSecret.ofBytes b))
    ∧ ∃ tokens, ∃ row : SessionRow,
      (loneService.visit (renewing "old" {}) atHome).1.issued? = some tokens
        ∧ row.digest = RefreshSecret.digest tokens.refreshToken
        ∧ ∃ x ∈ (loneService.visit (renewing (" " ++ tokens.refreshToken ++ "\n") {})
            (loneService.visit (renewing "old" {}) atHome).2).2.world.store.log,
          x.wanted? = some row.digest := by
  have hpadded : ∀ secret : String, Text.Padded (" " ++ secret ++ "\n") secret := by
    intro secret
    refine ⟨[' '], ['\n'], List.forall_mem_singleton.mpr rfl, List.forall_mem_singleton.mpr rfl, ?_⟩
    rw [String.toList_append, String.toList_append]
    rfl
  obtain ⟨hdrawn, -, hfound, hcomesBack⟩ := refresh_secrets_come_back
  constructor
  · obtain ⟨hsecret, hlength, -⟩ := hdrawn ⟨.ofSeed 2, none⟩ _ _ rfl
    exact ⟨_, _, rfl, hsecret, hlength,
      (hfound _ (ByteStream.length_take _ _) _ (hpadded _)).1 "refresh_token"⟩
  · obtain ⟨tokens, htokens, -⟩ := Option.map_eq_some_iff.mp atHome_issued
    obtain ⟨i, row, -, hdigest, hlater⟩ := hcomesBack loneService atHome _ tokens htokens
    have hdate : (Instant.ofSeconds 30).after? loneService.settings.refreshLifetime ≠ none := by decide
    exact ⟨tokens, row, htokens, hdigest,
      (hlater [] (renewing _ {}) (hpadded tokens.refreshToken)).2.2 ⟨rfl, rfl, rfl, hdate⟩⟩

end SessionAuth
