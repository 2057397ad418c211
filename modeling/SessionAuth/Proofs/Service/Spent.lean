import SessionAuth.Proofs.Service.Lineage
import SessionAuth.Proofs.Service.Refresh

/-!
Spent secrets: a refresh secret that has been used, or whose session has been ended, is refused for
good.

Three kinds of requests spend a secret, and each of them leaves the session of the secret revoked.
From then on there are two things to see. An exchange never takes a revocation back, since all that it
does to the rows that are there is to mark them (`Effect.grows`). And a row that it adds points back
to an open session if it points to any, so that a revoked one gets no further successor.

That a spent secret is refused in a particular way, and not just never accepted, takes circumstances in
which nothing else goes wrong; these are called fair.
-/

set_option autoImplicit false

namespace SessionAuth

open Database (SessionRow Tables Marks Condition)
open Relational (Rotates IsOpen)

/-! ## What an exchange does to the rows -/

/-- **Rows are marked, and rows are added**; who is pointed to by an added row was open before. -/
def Grows (rows rows' : List SessionRow) : Prop :=
  ∃ f added, Marks f ∧ rows' = rows.map f ++ added
    ∧ ∀ r ∈ added, ∀ p, r.rotatedFrom = some p →
      ∃ old ∈ rows, old.id = p ∧ old.revokedAt = none

theorem Grows.refl (rows : List SessionRow) : Grows rows rows :=
  ⟨id, [], Database.marks_id, by simp, by simp⟩

theorem Grows.map (rows : List SessionRow) {f : SessionRow → SessionRow} (hf : Marks f) :
    Grows rows (rows.map f) :=
  ⟨f, [], hf, (List.append_nil _).symm, by simp⟩

theorem Grows.rotates {t t' : Tables} {now expires : Instant} {oldSecret newSecret : String}
    {client : Client} {old : SessionRow} {rotated : RotatedSession}
    (hrot : Rotates t now oldSecret newSecret expires client old rotated t') :
    Grows t.sessions t'.sessions := by
  obtain ⟨rfl, -, -⟩ := Database.insertSession_ok hrot.replaced
  refine ⟨_, [_], Database.revokedBy_marks, rfl, fun r hr p hp =>
    ⟨old, hrot.mem, ?_, hrot.revokedAt_eq⟩⟩
  rw [List.mem_singleton.mp hr] at hp
  exact Option.some.inj hp

/-- **An exchange does nothing else to the rows.** -/
theorem Effect.grows {t t' : Tables} {x : Exchange} (hx : Effect t x t') :
    Grows t.sessions t'.sessions := by
  cases hx with
  | refused => exact Grows.refl _
  | registered hins =>
    rw [Database.insertUser_sessions hins]
    exact Grows.refl _
  | loggedIn hins =>
    obtain ⟨rfl, -, -⟩ := Database.insertSession_ok hins
    refine ⟨id, [_], Database.marks_id, by rw [List.map_id], fun r hr p hp => ?_⟩
    rw [List.mem_singleton.mp hr] at hp
    cases hp
  | refreshed _ hrot => exact Grows.rotates hrot
  | lost _ hrot => exact Grows.rotates hrot
  | validated => exact Grows.refl _
  | loggedOut _ _ => exact Grows.map _ Database.revokedBy_marks
  | loggedOutAll => exact Grows.map _ Database.revokedBy_marks

/-! ## Spending a secret -/

/-- Why an exchange failed; missing where it did not. -/
def Exchange.failure? (x : Exchange) : Option (Failure AuthFault) :=
  match x.outcome with
  | .ok _ => none
  | .error e => some e

/-- A request presents a secret in order to have its session replaced or ended. -/
def Request.Presents (secret : String) : Request → Prop
  | .refresh raw _ | .logout raw => SessionAuth.Presents raw secret
  | _ => False

/-- **What spends a secret**: its session is replaced or ended, or all sessions of its owner are. -/
def Spends (t : Tables) (secret : String) (x : Exchange) : Prop :=
  x.failure? = none ∧ (x.request.Presents secret ∨ ∃ row ∈ t.sessions,
    row.digest = RefreshSecret.digest secret ∧ x.request = .logoutAll row.userId)

/-- A secret is spent: its session, which has the identifier, is revoked. -/
def IsSpent (t : Tables) (secret : String) (id : SessionId) : Prop :=
  ∃ row ∈ t.sessions, row.id = id ∧ row.digest = RefreshSecret.digest secret
    ∧ row.revokedAt.isSome

/-- The sessions that have replaced a session. -/
def successors (rows : List SessionRow) (id : SessionId) : List SessionId :=
  (rows.filter (·.rotatedFrom == some id)).map (·.id)

variable {t t' : Tables} {x : Exchange} {secret : String} {id : SessionId}

/-- Rows that share a digest are one row. -/
theorem Lineage.eq_of_digest {rows : List SessionRow} (h : Lineage rows) {a b : SessionRow}
    (ha : a ∈ rows) (hb : b ∈ rows) (hdigest : a.digest = b.digest) : a = b :=
  List.inj_on_of_nodup_map h.digests ha hb hdigest

/-- A revocation that meets the session of a secret spends the secret. -/
theorem isSpent_revoke {row : SessionRow} {test : SessionRow → Bool} {moment : Instant}
    (hrow : row ∈ t.sessions) (hdigest : row.digest = RefreshSecret.digest secret)
    (htest : test row = true) {rows : List SessionRow}
    (hrows : t'.sessions = t.sessions.map (SessionRow.revokedBy test moment) ++ rows) :
    IsSpent t' secret row.id := by
  have hmarks : Marks (SessionRow.revokedBy test moment) := Database.revokedBy_marks
  refine ⟨row.revokedBy test moment, ?_, hmarks.id row, (hmarks.digest row).trans hdigest,
    Database.revokedBy_isSome htest⟩
  rw [hrows]
  exact List.mem_append_left _ (List.mem_map_of_mem hrow)

/-- What spends a secret leaves it spent. -/
theorem Spends.isSpent (h : Spends t secret x) (hx : Effect t x t') :
    ∃ id, IsSpent t' secret id := by
  obtain ⟨hdone, hsecret⟩ := h
  cases hx with
  | refused => cases hdone
  | registered _ => simp [Request.Presents] at hsecret
  | loggedIn _ => simp [Request.Presents] at hsecret
  | validated => simp [Request.Presents] at hsecret
  | lost _ _ => cases hdone
  | @refreshed raw secret' _ _ old _ _ _ hpresents hrot =>
    obtain hsecret | ⟨_, -, -, hsecret⟩ := hsecret
    · have heq : secret' = secret := Except.ok.inj (hpresents.symm.trans hsecret)
      subst heq
      obtain ⟨rfl, -, -⟩ := Database.insertSession_ok hrot.replaced
      exact ⟨old.id, isSpent_revoke hrot.mem hrot.digest_eq (beq_self_eq_true old.id) rfl⟩
    · cases hsecret
  | @loggedOut raw secret' _ hpresents hopen =>
    obtain hsecret | ⟨_, -, -, hsecret⟩ := hsecret
    · have heq : secret' = secret := Except.ok.inj (hpresents.symm.trans hsecret)
      subst heq
      obtain ⟨row, hrow, hdigest, -⟩ := hopen
      have htest : (fun r : SessionRow => r.digest == RefreshSecret.digest secret') row = true :=
        beq_iff_eq.mpr hdigest
      exact ⟨row.id, isSpent_revoke hrow hdigest htest (List.append_nil _).symm⟩
    · cases hsecret
  | loggedOutAll =>
    obtain hsecret | ⟨row, hrow, hdigest, hsecret⟩ := hsecret
    · exact hsecret.elim
    · cases hsecret
      exact ⟨row.id, isSpent_revoke hrow hdigest (beq_self_eq_true row.userId)
        (List.append_nil _).symm⟩

/-- A secret that is spent stays so. -/
theorem IsSpent.effect (h : IsSpent t secret id) (hx : Effect t x t') : IsSpent t' secret id := by
  obtain ⟨row, hrow, hid, hdigest, hrev⟩ := h
  obtain ⟨f, added, hf, hsessions, -⟩ := hx.grows
  refine ⟨f row, ?_, (hf.id row).trans hid, (hf.digest row).trans hdigest, hf.revoked row hrev⟩
  rw [hsessions]
  exact List.mem_append_left _ (List.mem_map_of_mem hrow)

/-- A session that is revoked gets no further successor. -/
theorem IsSpent.successors_eq (h : IsSpent t secret id) (ht : Lineage t.sessions)
    (hx : Effect t x t') : successors t'.sessions id = successors t.sessions id := by
  obtain ⟨row, hrow, hid, -, hrev⟩ := h
  obtain ⟨f, added, hf, hsessions, hadded⟩ := hx.grows
  -- an added row would point to an open session, and this one is revoked
  have hnone : added.filter (·.rotatedFrom == some id) = [] := by
    refine List.filter_eq_nil_iff.mpr fun r hr heq => ?_
    obtain ⟨old, hold, hold', hopen⟩ := hadded r hr id (beq_iff_eq.mp heq)
    rw [ht.eq_of_id hold hrow (hold'.trans hid.symm)] at hopen
    rw [hopen] at hrev
    cases hrev
  unfold successors
  rw [hsessions, List.filter_append, hnone, List.append_nil]
  exact hf.filter_map (fun r => by rw [hf.rotatedFrom]) hf.id

/-- A spent secret has no open session. -/
theorem IsSpent.not_open (h : IsSpent t secret id) (ht : Lineage t.sessions) :
    ¬IsOpen t secret := by
  obtain ⟨row, hrow, -, hdigest, hrev⟩ := h
  rintro ⟨other, hother, hdigest', hopen⟩
  rw [← ht.eq_of_digest hrow hother (hdigest.trans hdigest'.symm)] at hopen
  rw [hopen] at hrev
  cases hrev

/-- **A spent secret is never accepted**, whatever the circumstances. -/
theorem IsSpent.refused (h : IsSpent t secret id) (ht : Lineage t.sessions) (hx : Effect t x t')
    (hsecret : x.request.Presents secret) : x.failure? ≠ none := by
  have hclosed : ¬IsOpen t secret := h.not_open ht
  cases hx with
  | refused => exact nofun
  | registered _ => exact hsecret.elim
  | loggedIn _ => exact hsecret.elim
  | validated => exact hsecret.elim
  | loggedOutAll => exact hsecret.elim
  | lost _ _ => exact nofun
  | @refreshed raw secret' _ _ old _ _ _ hpresents hrot =>
    have heq : secret' = secret := Except.ok.inj (hpresents.symm.trans hsecret)
    subst heq
    exact absurd hrot.isOpen hclosed
  | @loggedOut raw secret' _ hpresents hopen =>
    have heq : secret' = secret := Except.ok.inj (hpresents.symm.trans hsecret)
    subst heq
    exact absurd hopen hclosed

/-! ## Fair circumstances -/

/-- **Nothing else goes wrong**: the database answers and disturbs no statement, enough random bytes are
there for a secret, and the refresh lifetime leads to a date. -/
structure Occasion.Fair (s : TableService) (o : Occasion Condition) : Prop where
  answers : o.condition.answers = true
  undisturbed : o.condition.troubles = []
  random : o.random.canRead RefreshSecret.byteCount = true
  lifetime : o.now.after? s.settings.refreshLifetime ≠ none

theorem RefreshSecret.draw?_ne_none {r : RandomSource} (h : r.canRead byteCount = true) :
    draw? r ≠ none := by
  unfold draw? RandomSource.draw?
  rw [if_pos h]
  exact nofun

/-- The session of a spent secret is found, and is found revoked. -/
theorem IsSpent.found (h : IsSpent t secret id) (ht : Lineage t.sessions) :
    ∃ old, t.sessions.find? (·.digest == RefreshSecret.digest secret) = some old
      ∧ old.revokedAt.isSome := by
  obtain ⟨row, hrow, -, hdigest, hrev⟩ := h
  rw [← hdigest]
  exact ⟨row, Database.find?_eq_some ht.digests hrow, hrev⟩

namespace TableService

variable {s : TableService} {st : ServiceState Database}

/-- A refresh with a spent secret is refused as one with an invalid secret. -/
theorem refresh_spent {raw : String} {client : Client} (hst : st.world.store.Fair)
    (hdraw : RefreshSecret.draw? st.world.random ≠ none)
    (hdate : st.world.now.after? s.settings.refreshLifetime ≠ none) (hraw : Presents raw secret)
    {old : SessionRow}
    (hfind : st.world.store.tables.sessions.find? (·.digest == RefreshSecret.digest secret)
      = some old) (hrev : old.revokedAt.isSome) :
    Ensures (s.service.refresh raw client) st (fun _ _ => False)
      (fun e _ => e = .refused .invalidRefreshToken) := by
  obtain ⟨⟨newSecret, rest⟩, hdrawn⟩ := Option.ne_none_iff_exists'.mp hdraw
  refine Service.refresh_rejected hraw hdrawn hdate fun expires => ?_
  refine (Relational.rotateSession_revoked (w := { st.world with random := rest }) hst hfind
    hrev).mono (fun _ _ h => h) ?_
  rintro _ _ rfl
  exact ⟨.revoked, rfl, rfl⟩

/-- A logout ends the session of a secret if it is open, and is refused otherwise. -/
theorem logout_fair {raw : String} (hst : st.world.store.Fair) (hraw : Presents raw secret) :
    Ensures (s.service.logout raw) st (fun _ _ => IsOpen st.world.store.tables secret)
      (fun e _ => ¬IsOpen st.world.store.tables secret
        ∧ e = .refused .invalidRefreshToken) := by
  refine Ensures.bind (Service.requireArgument_presents hraw) ?_
  rintro _ st₀ ⟨rfl, rfl⟩
  refine Ensures.bind_mono (Service.boundedSession_ensures
    (Relational.revokeSession_fair hst)) ?_ ?_
  · rintro e _ ⟨_, _, ⟨hclosed, rfl⟩, -, rfl⟩
    exact ⟨hclosed, rfl⟩
  · rintro _ _ ⟨_, -, h⟩
    exact h

/-- **A spent secret is refused as an invalid one** where nothing else goes wrong. -/
theorem visit_spent {o : Occasion Condition} (h : IsSpent st.tables secret id)
    (ht : Lineage st.tables.sessions) (ho : o.Fair s) (hsecret : o.request.Presents secret) :
    (s.visit o st).1.failure? = some (.refused .invalidRefreshToken) := by
  have hfair : (st.meet Database.meet o).world.store.Fair :=
    Database.meet_fair ho.answers ho.undisturbed
  have hdraw := RefreshSecret.draw?_ne_none ho.random
  have hdate := ho.lifetime
  obtain ⟨old, hfind, hrev⟩ := h.found ht
  have hserved : (s.service.serve o.request (st.meet Database.meet o)).1
      = .error (.refused .invalidRefreshToken) := by
    obtain ⟨q, now, random, condition⟩ := o
    cases q with
    | refresh raw client =>
      exact ((refresh_spent hfair hdraw hdate hsecret hfind hrev).mono (fun _ _ h => h.elim)
        fun _ _ he => congrArg Except.error he).ending (P := fun r _ => r = .error _)
    | logout raw =>
      exact ((logout_fair hfair hsecret).mono (fun _ _ hopen => absurd hopen (h.not_open ht))
        fun _ _ he => congrArg Except.error he.2).ending (P := fun r _ => r = .error _)
    | _ => exact hsecret.elim
  show (⟨o.request, _⟩ : Exchange).failure? = _
  unfold Exchange.failure?
  rw [hserved]

/-- A run leaves a spent secret spent, and gives its session no further successor. -/
theorem run_spent (l : List (Occasion Condition)) (h : IsSpent st.tables secret id)
    (ht : Lineage st.tables.sessions) :
    Lineage (s.run l st).2.tables.sessions ∧ IsSpent (s.run l st).2.tables secret id
      ∧ successors (s.run l st).2.tables.sessions id = successors st.tables.sessions id :=
  run_induction (s := s) (P := fun _ t => Lineage t.sessions ∧ IsSpent t secret id
      ∧ successors t.sessions id = successors st.tables.sessions id)
    (fun _ _ _ _ ⟨hl, hs, hn⟩ hx =>
      ⟨hl.effect hx, hs.effect hx, (hs.successors_eq hl hx).trans hn⟩)
    l [] st ⟨ht, h, rfl⟩

end TableService

/-- **Spent means spent.** In a run that starts from tables with a lineage, such as empty ones, let a
secret be spent by a request, and let any requests be served after it. Then no request that presents
the secret is done, and where nothing else goes wrong it is refused as one with an invalid secret;
and the session of the secret has got no further successor. -/
theorem spent_means_spent (s : TableService) (start : ServiceState Database)
    (hstart : Lineage start.tables.sessions) (before : List (Occasion Condition))
    (spending : Occasion Condition) (later : List (Occasion Condition)) (secret : String)
    (hspends : Spends (s.run before start).2.tables secret
      (s.visit spending (s.run before start).2).1) :
    let spent := (s.visit spending (s.run before start).2).2
    let st := (s.run later spent).2
    (∀ o : Occasion Condition, o.request.Presents secret →
      (s.visit o st).1.failure? ≠ none
      ∧ (o.Fair s → (s.visit o st).1.failure? = some (.refused .invalidRefreshToken)))
    ∧ ∀ row ∈ spent.tables.sessions, row.digest = RefreshSecret.digest secret →
        successors st.tables.sessions row.id = successors spent.tables.sessions row.id := by
  intro spent st
  -- the lineage is carried through the first part of the run, spending adds the spent session to it,
  -- and both are carried through the rest
  have hbefore : Lineage (s.run before start).2.tables.sessions :=
    TableService.run_induction (s := s) (P := fun _ t => Lineage t.sessions)
      (fun _ _ _ _ h hx => h.effect hx) before [] start hstart
  have heffect : Effect (s.run before start).2.tables _ spent.tables :=
    s.visit_effect spending (s.run before start).2
  have hspent : Lineage spent.tables.sessions := hbefore.effect heffect
  obtain ⟨id, hid⟩ := hspends.isSpent heffect
  obtain ⟨hlineage, hst, hsuccessors⟩ := TableService.run_spent (s := s) later hid hspent
  refine ⟨fun o ho => ⟨?_, fun hfair => TableService.visit_spent hst hlineage hfair ho⟩, ?_⟩
  · exact hst.refused hlineage (s.visit_effect o st) ho
  · intro row hrow hdigest
    obtain ⟨known, hknown, rfl, hdigest', -⟩ := hid
    rw [hspent.eq_of_digest hrow hknown (hdigest.trans hdigest'.symm)]
    exact hsuccessors

/-! ### A session that is ended, and a replay -/

/-- An open session for the secret `abc`. -/
def loneRow : SessionRow where
  id := ⟨.ofNat 1⟩
  userId := ⟨.ofNat 2⟩
  digest := RefreshSecret.digest "abc"
  createdAt := .epoch
  expiresAt := .ofSeconds 60
  revokedAt := none
  userAgent := none
  ip := none
  rotatedFrom := none

/-- A service whose table holds nothing else. -/
@[irreducible]
def lone : ServiceState Database where
  world :=
    { now := .epoch
      random := ⟨.ofSeed 1, none⟩
      events := []
      store := { tables := { sessions := [loneRow] } } }
  pool := ⟨⟨.standard, HashCost.flaw?_standard⟩, 1⟩
  dummyHash := none

theorem lone_sessions : lone.tables.sessions = [loneRow] := by
  unfold lone
  rfl

/-- The settings of the service. -/
def loneService : TableService := ⟨⟨[], "issuer"⟩, {}, Relational.defaultLockTimeout⟩

/-- The session is ended. -/
def loneLogout : Occasion Condition := ⟨.logout " abc\n", .epoch, ⟨.ofSeed 2, none⟩, {}⟩

/-- Its secret is presented again, by a clock that has gone backwards. -/
def loneReplay : Occasion Condition :=
  ⟨.refresh "abc" ⟨none, none⟩, .ofSeconds (-5), ⟨.ofSeed 3, some 32⟩, {}⟩

theorem lone_lineage : Lineage lone.tables.sessions := by
  rw [lone_sessions]
  refine Lineage.empty.append (r := loneRow) nofun nofun ?_
  intro p hp
  cases hp

theorem loneLogout_spends : Spends lone.tables "abc" (loneService.visit loneLogout lone).1 := by
  have hpresents : Presents " abc\n" "abc" := by
    unfold Presents
    rfl
  have hopen : IsOpen (lone.meet Database.meet loneLogout).world.store.tables "abc" := by
    show IsOpen lone.tables "abc"
    exact ⟨loneRow, by rw [lone_sessions]; exact List.mem_singleton_self _, rfl, rfl⟩
  have hfair : (lone.meet Database.meet loneLogout).world.store.Fair :=
    Database.meet_fair rfl rfl
  have hserved := ((TableService.logout_fair (s := loneService) hfair hpresents).mono
    (fun _ _ _ => rfl) fun _ _ h => absurd hopen h.1).ending
    (P := fun r _ => (⟨loneLogout.request, r⟩ : Exchange).failure? = none)
  exact ⟨hserved, Or.inl hpresents⟩

theorem spent_means_spent_lone :
    Lineage lone.tables.sessions
      ∧ Spends lone.tables "abc" (loneService.visit loneLogout lone).1
      ∧ (loneService.visit loneReplay (loneService.visit loneLogout lone).2).1.failure?
          = some (.refused .invalidRefreshToken) := by
  have hpresents : loneReplay.request.Presents "abc" := by
    show Presents "abc" "abc"
    unfold Presents
    rfl
  have hfair : loneReplay.Fair loneService := ⟨rfl, rfl, rfl, by decide⟩
  have h := spent_means_spent loneService lone lone_lineage [] loneLogout [] "abc"
    loneLogout_spends
  exact ⟨lone_lineage, loneLogout_spends, (h.1 loneReplay hpresents).2 hfair⟩

end SessionAuth
