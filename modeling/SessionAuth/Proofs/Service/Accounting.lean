import SessionAuth.Proofs.Service.Login

/-!
The sessions of a user, counted by what the service has answered.

What has been answered tells how many sessions a user has, and how many of them are not revoked: a login
opens one, a refresh replaces one by another, and a logout and the end of all sessions revoke. That
nothing else creates, loses, doubles or revokes a session is a law of conservation for whole runs
(`sessions_accounted`).

The invariant (`Ledger`) says more than the law. The rows stand in the order of the tokens that have been
handed out, each for the owner of its token; so that whose token is presented can be told from the
exchanges alone (`holder?`). A refresh that fails behind its rotation would break this, since it adds
a session whose token nobody gets. It takes an access lifetime that leads to no date, and the law
holds where there is none.
-/

set_option autoImplicit false

namespace SessionAuth

open Database (SessionRow Tables Marks Condition)
open Relational (Rotates IsOpen)

/-! ## Counting exchanges -/

/-- The tokens that an exchange hands out. -/
def Exchange.issued? : Exchange → Option IssuedTokens
  | ⟨.login _ _ _, .ok tokens⟩ => some tokens
  | ⟨.refresh _ _, .ok tokens⟩ => some tokens
  | _ => none

/-- Whose refresh token a text presents, among the tokens that have been handed out. -/
def holder? (xs : List Exchange) (raw : String) : Option UserId :=
  match Service.required raw "refresh_token" with
  | .error _ => none
  | .ok secret =>
    ((xs.filterMap Exchange.issued?).find? fun tokens =>
      RefreshSecret.digest tokens.refreshToken == RefreshSecret.digest secret).map (·.userId)

namespace Exchange

/-- A successful login of a user. -/
def isLogin (u : UserId) (x : Exchange) : Bool := x.opened?.any (·.userId == u)

/-- A successful refresh of a token of a user. -/
def isRefresh (holder : String → Option UserId) (u : UserId) : Exchange → Bool
  | ⟨.refresh raw _, .ok _⟩ => holder raw == some u
  | _ => false

/-- A successful logout with a token of a user. -/
def isLogout (holder : String → Option UserId) (u : UserId) : Exchange → Bool
  | ⟨.logout raw, .ok _⟩ => holder raw == some u
  | _ => false

/-- How many sessions of a user are reported as ended, where all of them are. -/
def ended (u : UserId) : Exchange → Nat
  | ⟨.logoutAll v, .ok n⟩ => if v = u then n else 0
  | _ => 0

end Exchange

variable {rows rows' : List SessionRow} {xs : List Exchange} {x : Exchange} {u v : UserId}
  {r old : SessionRow}

/-- Successful logins of a user. -/
def logins (xs : List Exchange) (u : UserId) : Nat := xs.countP (·.isLogin u)

/-- Successful refreshes of the tokens of a user. -/
def refreshes (xs : List Exchange) (u : UserId) : Nat := xs.countP (·.isRefresh (holder? xs) u)

/-- Successful logouts with tokens of a user. -/
def logouts (xs : List Exchange) (u : UserId) : Nat := xs.countP (·.isLogout (holder? xs) u)

/-- The sum of the counts that a user's requests to end all sessions were answered with. -/
def endedTogether : List Exchange → UserId → Nat
  | [], _ => 0
  | x :: xs, u => x.ended u + endedTogether xs u

theorem endedTogether_snoc (xs : List Exchange) (x : Exchange) (u : UserId) :
    endedTogether (xs ++ [x]) u = endedTogether xs u + x.ended u := by
  induction xs with
  | nil =>
    show x.ended u + 0 = 0 + x.ended u
    omega
  | cons y rest ih =>
    show y.ended u + endedTogether (rest ++ [x]) u = y.ended u + endedTogether rest u + x.ended u
    rw [ih, Nat.add_assoc]

/-! ## Counting rows -/

/-- The sessions of a user that are not revoked; they may have expired. -/
def openSessions (rows : List SessionRow) (u : UserId) : Nat :=
  rows.countP fun r => r.userId == u && r.revokedAt.isNone

theorem openSessions_snoc (hopen : r.revokedAt = none) :
    openSessions (rows ++ [r]) u = openSessions rows u + (r.userId == u).toNat := by
  unfold openSessions
  rw [List.countP_append, List.countP_singleton, hopen, Option.isNone_none, Bool.and_true]
  cases r.userId == u <;> rfl

/-- A revocation takes from the open sessions of a user those that it meets. -/
theorem openSessions_revokedBy (test : SessionRow → Bool) (moment : Instant) :
    openSessions (rows.map (SessionRow.revokedBy test moment)) u
        + rows.countP (fun r => test r && (r.userId == u && r.revokedAt.isNone))
      = openSessions rows u := by
  induction rows with
  | nil => rfl
  | cons r rest ih =>
    unfold openSessions at ih ⊢
    rw [List.map_cons, List.countP_cons, List.countP_cons, List.countP_cons]
    unfold SessionRow.revokedBy at ih ⊢
    -- only a row that is met and open goes from one count to the other
    cases htest : test r
    · simp only [Bool.false_and, Bool.false_eq_true, if_false]
      omega
    · cases hrev : r.revokedAt
      · simp only [Bool.true_and, Option.isNone_none, Bool.and_true, if_true, Option.isNone_some,
          Bool.and_false, Bool.false_eq_true, if_false]
        omega
      · simp only [Option.isNone_some, Bool.and_false, Bool.false_eq_true, if_false, hrev]
        omega

/-- A test that one open row passes meets one session, which is its owner's. -/
theorem countP_single (h : Lineage rows) {test : SessionRow → Bool} (hold : old ∈ rows)
    (hopen : old.revokedAt = none) (htest : ∀ r ∈ rows, test r = true ↔ r = old) :
    rows.countP (fun r => test r && (r.userId == u && r.revokedAt.isNone))
      = (old.userId == u).toNat := by
  have hnodup : rows.Nodup := List.Nodup.of_map _ h.ids
  cases hu : old.userId == u with
  | true =>
    rw [Bool.toNat_true, ← List.count_eq_one_of_mem hnodup hold]
    refine List.countP_congr fun r hr => ?_
    rw [Bool.and_eq_true, htest r hr, beq_iff_eq]
    constructor
    · exact fun hmet => hmet.1
    · rintro rfl
      rw [hopen, hu]
      exact ⟨rfl, rfl⟩
  | false =>
    rw [Bool.toNat_false, List.countP_eq_zero]
    intro r hr hmet
    rw [Bool.and_eq_true, Bool.and_eq_true, htest r hr] at hmet
    obtain ⟨rfl, huser, -⟩ := hmet
    rw [hu] at huser
    cases huser

/-- Where one open session is revoked, its owner has one less. -/
theorem openSessions_single (h : Lineage rows) {test : SessionRow → Bool} (moment : Instant)
    (hold : old ∈ rows) (hopen : old.revokedAt = none)
    (htest : ∀ r ∈ rows, test r = true ↔ r = old) :
    openSessions (rows.map (SessionRow.revokedBy test moment)) u
        + (old.userId == u).toNat = openSessions rows u := by
  rw [← countP_single h hold hopen htest]
  exact openSessions_revokedBy test moment

/-- Where all sessions of a user are revoked, that user has none left, and the others keep theirs. -/
theorem openSessions_all (rows : List SessionRow) (moment : Instant) :
    openSessions (rows.map (SessionRow.revokedBy (·.userId == v) moment)) u
        + (if v = u then openSessions rows v else 0) = openSessions rows u := by
  have hmet : rows.countP (fun r => r.userId == v && (r.userId == u && r.revokedAt.isNone))
      = if v = u then openSessions rows v else 0 := by
    by_cases huv : v = u
    · rw [if_pos huv, huv]
      unfold openSessions
      refine List.countP_congr fun r _ => ?_
      rw [← Bool.and_assoc, Bool.and_self]
    · rw [if_neg huv, List.countP_eq_zero]
      intro r _ hr
      rw [Bool.and_eq_true, Bool.and_eq_true, beq_iff_eq, beq_iff_eq] at hr
      exact huv (hr.1.symm.trans hr.2.1)
  rw [← hmet]
  exact openSessions_revokedBy _ moment

/-! ## What an exchange does, with its figures -/

/-- **An exchange, audited**: a failure has changed nothing, the tokens of a refresh are for the owner of
the session that was added, and a count is that of the sessions that were open. -/
structure Audit (t : Tables) (x : Exchange) (t' : Tables) : Prop where
  effect : Effect t x t'
  failed : x.failure? ≠ none → t' = t
  owner : ∀ {raw client tokens}, x = ⟨.refresh raw client, .ok tokens⟩ →
    ∃ row, t'.sessions.getLast? = some row ∧ row.userId = tokens.userId
  counted : ∀ {u n}, x = ⟨.logoutAll u, .ok n⟩ → n = openSessions t.sessions u

namespace TableService

variable {s : TableService} {st : ServiceState Database}

/-- A request that is answered with a count has counted the sessions that were open. -/
theorem logoutAll_counts (hst : st.world.store.Ready) :
    Ensures (s.service.logoutAll u) st
      (fun n st' => n = openSessions st.tables.sessions u
        ∧ st'.tables.sessions = st.tables.sessions.map
            (SessionRow.revokedBy (·.userId == u) st.world.now.floorMicros))
      (fun _ _ => True) := by
  refine (logoutAll_ensures hst).mono ?_ fun _ _ _ => trivial
  intro n st' h
  have hn : (st.tables.revoke (·.userId == u) st.world.now.floorMicros).1.changed = n := by
    rw [h]
  have hsessions := congrArg (fun p => p.2.sessions) h
  exact ⟨hn.symm, hsessions.symm⟩

/-- Where the access lifetime leads to a date, every exchange passes the audit. -/
theorem serve_audit (q : Request) (hst : st.world.store.Ready)
    (hdate : st.world.now.after? s.settings.accessLifetime ≠ none) :
    Ensures (s.service.serve q) st (fun x st' => Audit st.tables ⟨q, .ok x⟩ st'.tables)
      (fun e st' => Audit st.tables ⟨q, .error e⟩ st'.tables) := by
  have heffect := serve_effect (s := s) q hst
  -- a value is no failure, and a failure has no figures
  have hok : ∀ {q : Request} {x : q.Answer} {P : Prop},
      (⟨q, .ok x⟩ : Exchange).failure? ≠ none → P := fun h => absurd rfl h
  have hsame : ∀ {e : Failure AuthFault} {t t' : Tables}, Effect t ⟨q, .error e⟩ t' → t' = t →
      Audit t ⟨q, .error e⟩ t' := by
    intro e t t' h ht
    refine ⟨h, fun _ => ht, ?_, ?_⟩
    · intro raw client tokens heq
      exact absurd (congrArg Exchange.failure? heq) nofun
    · intro u n heq
      exact absurd (congrArg Exchange.failure? heq) nofun
  cases q with
  | register email password =>
    refine (heffect.and (register_ensures hst)).mono ?_ fun _ _ h => hsame h.1 h.2
    exact fun _ _ h => ⟨h.1, hok, nofun, nofun⟩
  | login email password client =>
    refine (heffect.and (login_ensures hst)).mono ?_ fun _ _ h => hsame h.1 h.2
    exact fun _ _ h => ⟨h.1, hok, nofun, nofun⟩
  | refresh raw client =>
    refine (heffect.and (refresh_ensures hst)).mono ?_ ?_
    · rintro tokens st' ⟨h, secret, old, r, -, huser, hrot⟩
      refine ⟨h, hok, ?_, nofun⟩
      rintro _ _ _ ⟨⟩
      rw [hrot.sessions_eq, List.getLast?_concat]
      exact ⟨_, rfl, hrot.owner_id.symm.trans huser.symm⟩
    · rintro e st' ⟨h, ht | ⟨hnone, -⟩⟩
      · exact hsame h ht
      · exact absurd hnone hdate
  | validate raw =>
    refine (heffect.and validate_ensures).mono ?_ fun _ _ h => hsame h.1 h.2
    exact fun _ _ h => ⟨h.1, hok, nofun, nofun⟩
  | logout raw =>
    refine (heffect.and (logout_ensures hst)).mono ?_ fun _ _ h => hsame h.1 h.2
    exact fun _ _ h => ⟨h.1, hok, nofun, nofun⟩
  | logoutAll user =>
    refine ((heffect.and (logoutAll_ensures hst)).and (logoutAll_counts hst)).mono ?_
      fun _ _ h => hsame h.1.1 h.1.2
    rintro n st' ⟨⟨h, -⟩, hn, -⟩
    refine ⟨h, hok, nofun, ?_⟩
    rintro _ _ ⟨⟩
    exact hn

theorem visit_audit (o : Occasion Condition) (st : ServiceState Database)
    (hdate : o.now.after? s.settings.accessLifetime ≠ none) :
    Audit st.tables (s.visit o st).1 (s.visit o st).2.tables := by
  have h : Ensures (s.service.serve o.request) (st.meet Database.meet o) _ _ :=
    serve_audit o.request (Database.meet_ready o.condition st.world.store) hdate
  exact Service.visit_ending (P := fun x (st' : ServiceState Database) =>
    Audit st.tables x st'.tables) rfl h

end TableService

/-! ## The ledger -/

/-- **The rows and the exchanges tell the same.** -/
structure Ledger (rows : List SessionRow) (xs : List Exchange) : Prop where
  lineage : Lineage rows
  /-- The rows are those of the tokens that have been handed out, in this order. -/
  issued : rows.map (fun r => (r.userId, r.digest))
    = (xs.filterMap Exchange.issued?).map fun tokens =>
        (tokens.userId, RefreshSecret.digest tokens.refreshToken)
  /-- The tokens of a refresh are for whom the refreshed token was for. -/
  refreshed : ∀ {raw client tokens}, ⟨.refresh raw client, .ok tokens⟩ ∈ xs →
    holder? xs raw = some tokens.userId
  loggedOut : ∀ {raw}, ⟨.logout raw, .ok ()⟩ ∈ xs → (holder? xs raw).isSome
  balance : ∀ u, openSessions rows u + (logouts xs u + endedTogether xs u) = logins xs u

theorem holder?_append {raw : String} (h : holder? xs raw = some u) (ys : List Exchange) :
    holder? (xs ++ ys) raw = some u := by
  unfold holder? at h ⊢
  split at h
  · cases h
  · obtain ⟨tokens, hfind, huser⟩ := Option.map_eq_some_iff.mp h
    rw [List.filterMap_append, List.find?_append, hfind]
    exact congrArg some huser

/-- What counts as a logout of a user is settled by then. -/
theorem isLogout_append (ys : List Exchange)
    (h : ∀ raw, x = ⟨.logout raw, .ok ()⟩ → (holder? xs raw).isSome) :
    x.isLogout (holder? (xs ++ ys)) u = x.isLogout (holder? xs) u := by
  obtain ⟨q, e | a⟩ := x
  · cases q <;> rfl
  cases q with
  | logout raw =>
    obtain ⟨v, hv⟩ := Option.isSome_iff_exists.mp (h raw rfl)
    show (holder? (xs ++ ys) raw == some u) = (holder? xs raw == some u)
    rw [hv, holder?_append hv]
  | _ => rfl

namespace Ledger

theorem empty : Ledger [] [] :=
  ⟨Lineage.empty, rfl, nofun, nofun, fun _ => rfl⟩

/-- The token that a session was stored for is held by its owner. -/
theorem holder (h : Ledger rows xs) {raw secret : String} (hr : r ∈ rows)
    (hraw : Presents raw secret) (hdigest : r.digest = RefreshSecret.digest secret) :
    holder? xs raw = some r.userId := by
  have hmem : (r.userId, r.digest) ∈ rows.map fun r => (r.userId, r.digest) :=
    List.mem_map_of_mem hr
  rw [h.issued] at hmem
  obtain ⟨tokens, htokens, heq⟩ := List.mem_map.mp hmem
  obtain ⟨-, hsecret⟩ := Prod.mk.inj heq
  unfold holder?
  rw [show Service.required raw "refresh_token" = .ok secret from hraw]
  dsimp only
  cases hfind : (xs.filterMap Exchange.issued?).find? fun tokens =>
      RefreshSecret.digest tokens.refreshToken == RefreshSecret.digest secret with
  | none =>
    refine absurd (beq_iff_eq.mpr ?_) (List.find?_eq_none.mp hfind tokens htokens)
    exact hsecret.trans hdigest
  | some first =>
    -- whoever was handed a token with this digest has a row with it, and there is one such row
    have hfirst : (first.userId, RefreshSecret.digest first.refreshToken)
        ∈ (xs.filterMap Exchange.issued?).map fun tokens =>
            (tokens.userId, RefreshSecret.digest tokens.refreshToken) :=
      List.mem_map_of_mem (List.mem_of_find?_eq_some hfind)
    rw [← h.issued] at hfirst
    obtain ⟨r', hr', heq'⟩ := List.mem_map.mp hfirst
    obtain ⟨huser', hdigest'⟩ := Prod.mk.inj heq'
    have hsame : r' = r := by
      refine h.lineage.eq_of_digest hr' hr ?_
      rw [hdigest', hdigest]
      exact Database.eq_of_find? (f := fun tokens : IssuedTokens =>
        RefreshSecret.digest tokens.refreshToken) hfind
    rw [Option.map_some, ← huser', hsame]

/-- **One more exchange.** What it does to the rows has to agree with what it hands out and with what it
counts as. -/
theorem snoc (h : Ledger rows xs) (hlineage : Lineage rows')
    (hissued : rows'.map (fun r => (r.userId, r.digest))
      = rows.map (fun r => (r.userId, r.digest)) ++ ([x].filterMap Exchange.issued?).map
          fun tokens => (tokens.userId, RefreshSecret.digest tokens.refreshToken))
    (hrefreshed : ∀ {raw client tokens}, x = ⟨.refresh raw client, .ok tokens⟩ →
      holder? xs raw = some tokens.userId)
    (hloggedOut : ∀ raw, x = ⟨.logout raw, .ok ()⟩ → (holder? xs raw).isSome)
    (hbalance : ∀ u, openSessions rows' u + ((x.isLogout (holder? xs) u).toNat + x.ended u)
      = openSessions rows u + (x.isLogin u).toNat) :
    Ledger rows' (xs ++ [x]) := by
  refine ⟨hlineage, ?_, ?_, ?_, fun u => ?_⟩
  · rw [hissued, h.issued, List.filterMap_append, List.map_append]
  · intro raw client tokens hmem
    rcases List.mem_append.mp hmem with hmem | hmem
    · exact holder?_append (h.refreshed hmem) [x]
    · exact holder?_append (hrefreshed (List.mem_singleton.mp hmem).symm) [x]
  · intro raw hmem
    have hsome : (holder? xs raw).isSome := by
      rcases List.mem_append.mp hmem with hmem | hmem
      · exact h.loggedOut hmem
      · exact hloggedOut raw (List.mem_singleton.mp hmem).symm
    obtain ⟨v, hv⟩ := Option.isSome_iff_exists.mp hsome
    rw [holder?_append hv]
    rfl
  · -- one more exchange does not change whose tokens the earlier logouts were for
    have hbefore : xs.countP (·.isLogout (holder? (xs ++ [x])) u) = logouts xs u := by
      refine List.countP_congr fun y hy => ?_
      rw [isLogout_append [x] fun raw heq => h.loggedOut (heq ▸ hy)]
    have hlogouts : logouts (xs ++ [x]) u
        = logouts xs u + (x.isLogout (holder? xs) u).toNat := by
      rw [← hbefore, ← isLogout_append [x] hloggedOut]
      unfold logouts
      rw [List.countP_append, List.countP_singleton]
      cases x.isLogout (holder? (xs ++ [x])) u <;> rfl
    have hlogins : logins (xs ++ [x]) u = logins xs u + (x.isLogin u).toNat := by
      unfold logins
      rw [List.countP_append, List.countP_singleton]
      cases x.isLogin u <;> rfl
    have hxs := h.balance u
    have hx := hbalance u
    rw [hlogouts, hlogins, endedTogether_snoc]
    omega

/-- An exchange that hands out nothing and ends nothing leaves the rows as they are. -/
theorem idle (h : Ledger rows xs) (hissued : x.issued? = none)
    (hlogin : ∀ u, x.isLogin u = false) (hlogout : ∀ holder u, x.isLogout holder u = false)
    (hended : ∀ u, x.ended u = 0) : Ledger rows (xs ++ [x]) := by
  refine h.snoc h.lineage ?_ ?_ ?_ fun u => ?_
  · rw [List.filterMap_cons_none hissued]
    exact (List.append_nil _).symm
  · rintro raw client tokens rfl
    cases hissued
  · rintro raw rfl
    have htrue := hlogout (fun _ => some ⟨.ofNat 0⟩) ⟨.ofNat 0⟩
    exact absurd htrue nofun
  · rw [hlogin, hlogout, hended]
    rfl

/-- A revocation changes neither whose the sessions are nor their digests. -/
theorem map_pairs {f : SessionRow → SessionRow} (hf : Marks f) (rows : List SessionRow) :
    (rows.map f).map (fun r => (r.userId, r.digest)) = rows.map fun r => (r.userId, r.digest) := by
  rw [List.map_map]
  refine List.map_congr_left fun r _ => ?_
  rw [Function.comp_apply, hf.userId, hf.digest]

section Rows

variable {t t' : Tables} {raw secret : String} {now : Instant}

/-- A refresh hands out tokens to the owner of the session that it replaces. -/
theorem snoc_refresh {client : Client} {tokens : IssuedTokens} {replaced : RotatedSession}
    (h : Ledger t.sessions xs) (hlineage : Lineage t'.sessions) (hsecret : Presents raw secret)
    (hrot : Rotates t now secret tokens.refreshToken tokens.refreshExpiresAt client old replaced t')
    (htokens : tokens.userId = old.userId) :
    Ledger t'.sessions (xs ++ [⟨.refresh raw client, .ok tokens⟩]) := by
  have holder : holder? xs raw = some old.userId := h.holder hrot.mem hsecret hrot.digest_eq
  have hmarks : Marks (SessionRow.revokedBy (·.id == old.id) now.towardStorageEpoch) :=
    Database.revokedBy_marks
  have htest : ∀ row ∈ t.sessions, (row.id == old.id) = true ↔ row = old := by
    intro row hrow
    rw [beq_iff_eq]
    exact ⟨fun hid => h.lineage.eq_of_id hrow hrot.mem hid, congrArg _⟩
  rw [hrot.sessions_eq] at hlineage ⊢
  refine h.snoc hlineage ?_ ?_ nofun fun u => ?_
  · rw [List.map_append, map_pairs hmarks]
    show _ = _ ++ [(tokens.userId, _)]
    rw [htokens]
    rfl
  · rintro _ _ _ ⟨⟩
    rw [holder, htokens]
  · have hsingle := openSessions_single (u := u) h.lineage now.towardStorageEpoch hrot.mem
      hrot.revokedAt_eq htest
    rw [openSessions_snoc rfl]
    exact hsingle

/-- A logout ends the one session whose token is presented. -/
theorem snoc_logout (h : Ledger t.sessions xs) (hsecret : Presents raw secret)
    (hopen : IsOpen t secret)
    (hlineage : Lineage (t.revoke (·.digest == RefreshSecret.digest secret) now).2.sessions) :
    Ledger (t.revoke (·.digest == RefreshSecret.digest secret) now).2.sessions
      (xs ++ [⟨.logout raw, .ok ()⟩]) := by
  obtain ⟨row, hrow, hdigest, hrowOpen⟩ := hopen
  have holder : holder? xs raw = some row.userId := h.holder hrow hsecret hdigest
  have htest : ∀ r ∈ t.sessions, (r.digest == RefreshSecret.digest secret) = true ↔ r = row := by
    intro r hr
    rw [beq_iff_eq, ← hdigest]
    exact ⟨fun heq => h.lineage.eq_of_digest hr hrow heq, congrArg _⟩
  refine h.snoc hlineage ?_ nofun ?_ fun u => ?_
  · rw [Database.revoke_sessions, map_pairs Database.revokedBy_marks]
    exact (List.append_nil _).symm
  · rintro _ ⟨⟩
    rw [holder]
    rfl
  · have hsingle := openSessions_single (u := u) h.lineage now hrow hrowOpen htest
    show _ + ((holder? xs raw == some u).toNat + 0) = openSessions t.sessions u + 0
    rw [holder, ← hsingle]
    rfl

/-- Where all sessions of a user are ended, those that were open are counted. -/
theorem snoc_logoutAll {n : Nat} (h : Ledger t.sessions xs)
    (hlineage : Lineage (t.revoke (·.userId == v) now).2.sessions)
    (hn : n = openSessions t.sessions v) :
    Ledger (t.revoke (·.userId == v) now).2.sessions (xs ++ [⟨.logoutAll v, .ok n⟩]) := by
  refine h.snoc hlineage ?_ nofun nofun fun u => ?_
  · rw [Database.revoke_sessions, map_pairs Database.revokedBy_marks]
    exact (List.append_nil _).symm
  · have hall := openSessions_all t.sessions (u := u) (v := v) now
    rw [← hn] at hall
    show _ + (0 + if v = u then n else 0) = openSessions t.sessions u + 0
    rw [← hall, Nat.zero_add]
    rfl

/-- **Every exchange keeps the ledger**, if it passes the audit. -/
theorem audit (h : Ledger t.sessions xs) (hx : Audit t x t') :
    Ledger t'.sessions (xs ++ [x]) := by
  have hlineage : Lineage t'.sessions := h.lineage.effect hx.effect
  obtain ⟨heffect, hfailed, howner, hcounted⟩ := hx
  cases heffect with
  | @refused q e =>
    refine h.idle ?_ (fun u => ?_) (fun holder u => ?_) fun u => ?_ <;> cases q <;> rfl
  | registered hins =>
    rw [Database.insertUser_sessions hins]
    exact h.idle rfl (fun _ => rfl) (fun _ _ => rfl) fun _ => rfl
  | validated => exact h.idle rfl (fun _ => rfl) (fun _ _ => rfl) fun _ => rfl
  | loggedIn hins =>
    obtain ⟨rfl, -, -⟩ := Database.insertSession_ok hins
    refine h.snoc hlineage (List.map_append ..) nofun nofun fun u => ?_
    rw [openSessions_snoc rfl]
    rfl
  | refreshed hsecret hrot =>
    obtain ⟨row, hlast, huser⟩ := howner rfl
    rw [hrot.sessions_eq, List.getLast?_concat] at hlast
    refine h.snoc_refresh hlineage hsecret hrot ?_
    rw [← huser, ← Option.some.inj hlast]
    rfl
  | lost _ hrot =>
    -- the session that is added would be one that nobody has been told of
    have hlength := congrArg (fun t => t.sessions.length) (hfailed nofun)
    rw [hrot.sessions_eq, List.length_append, List.length_map] at hlength
    simp at hlength
  | loggedOut hsecret hopen => exact h.snoc_logout hsecret hopen hlineage
  | loggedOutAll => exact h.snoc_logoutAll hlineage (hcounted rfl)

end Rows

/-- Tokens are handed out by logins and by refreshes. -/
theorem countP_issued {holder : String → Option UserId} (u : UserId) (ys : List Exchange)
    (hys : ∀ {raw client tokens}, ⟨.refresh raw client, .ok tokens⟩ ∈ ys →
      holder raw = some tokens.userId) :
    (ys.filterMap Exchange.issued?).countP (·.userId == u)
      = ys.countP (·.isLogin u) + ys.countP (·.isRefresh holder u) := by
  induction ys with
  | nil => rfl
  | cons y rest ih =>
    have hrest := ih fun hmem => hys (List.mem_cons_of_mem y hmem)
    have hcons : ∀ tokens, y.issued? = some tokens →
        ((y :: rest).filterMap Exchange.issued?).countP (·.userId == u)
          = rest.countP (·.isLogin u) + rest.countP (·.isRefresh holder u)
            + if tokens.userId == u then 1 else 0 := by
      intro tokens htokens
      rw [List.filterMap_cons_some htokens, List.countP_cons, hrest]
    rw [List.countP_cons, List.countP_cons]
    obtain ⟨q, e | a⟩ := y
    · cases q <;> exact hrest
    cases q with
    | login email password client =>
      refine (hcons a rfl).trans ?_
      show _ + (if a.userId == u then 1 else 0) = _ + (if a.userId == u then 1 else 0) + (_ + 0)
      omega
    | refresh raw client =>
      have hholder : holder raw = some a.userId := hys List.mem_cons_self
      refine (hcons a rfl).trans ?_
      show _ + (if a.userId == u then 1 else 0)
        = _ + 0 + (_ + if holder raw == some u then 1 else 0)
      rw [hholder, Option.some_beq_some]
      omega
    | _ => exact hrest

/-- The rows of a user are as many as the tokens that were handed out to that user. -/
theorem total (h : Ledger rows xs) (u : UserId) :
    rows.countP (·.userId == u) = logins xs u + refreshes xs u := by
  have hpairs : rows.countP (·.userId == u)
      = (rows.map fun r => (r.userId, r.digest)).countP (·.1 == u) := by
    rw [List.countP_map]
    rfl
  rw [hpairs, h.issued, List.countP_map]
  exact countP_issued u xs h.refreshed

end Ledger

/-! ## Runs -/

namespace TableService

variable {s : TableService} {st : ServiceState Database}

/-- **A run keeps the ledger**, if the access lifetime leads to a date at all of its times. -/
theorem run_ledger (pool : HashingPool) (l : List (Occasion Condition))
    (hdates : ∀ o ∈ l, o.now.after? s.settings.accessLifetime ≠ none) :
    Ledger (s.run l (.fresh pool)).2.tables.sessions (s.run l (.fresh pool)).1 :=
  Service.run_induction_of (s := s.service) (P := fun xs st => Ledger st.tables.sessions xs)
    (fun _ o st ho h => h.audit (s.visit_audit o st ho)) l hdates [] (.fresh pool) Ledger.empty

/-- What is counted where all sessions of a user are ended, and what is left. -/
theorem visit_counts {o : Occasion Condition} {n : Nat}
    (hx : (s.visit o st).1 = ⟨.logoutAll u, .ok n⟩) :
    n = openSessions st.tables.sessions u
      ∧ openSessions (s.visit o st).2.tables.sessions u = 0 := by
  have hserved : Ensures (s.service.logoutAll u) (st.meet Database.meet o) _ _ :=
    logoutAll_counts (Database.meet_ready o.condition st.world.store)
  obtain ⟨hn, hsessions⟩ := Service.visit_of_ok (q := .logoutAll u) hserved hx
  refine ⟨hn, ?_⟩
  have hall := openSessions_all st.tables.sessions (u := u) (v := u) o.now.floorMicros
  rw [if_pos rfl] at hall
  have hleft : openSessions (st.tables.sessions.map
      (SessionRow.revokedBy (·.userId == u) o.now.floorMicros)) u = 0 := by omega
  rw [← hleft]
  exact congrArg (openSessions · u) hsessions

/-- In a fair database, all sessions of a user are ended. -/
theorem visit_logoutAll {o : Occasion Condition} (hrequest : o.request = .logoutAll u)
    (hanswers : o.condition.answers = true) (hcalm : o.condition.troubles = []) :
    ∃ n : Nat, (s.visit o st).1 = ⟨.logoutAll u, .ok n⟩ := by
  have hfair : (Database.meet o.condition st.world.store).Fair := Database.meet_fair hanswers hcalm
  have hserved : Ensures (s.service.logoutAll u) (st.meet Database.meet o) (fun _ _ => True)
      (fun _ _ => False) := by
    refine Ensures.bind_mono (Service.boundedSession_ensures
      (Relational.revokeAllSessions_fair hfair)) (fun _ _ ⟨_, _, h, _⟩ => h) ?_
    intro _ _ _
    exact Serve.report_bind fun _ _ => trivial
  obtain ⟨n, hn, -⟩ := Service.visit_exists_ok (q := .logoutAll u) hrequest hserved
  exact ⟨n, hn⟩

end TableService

/-- **Sessions are accounted for**, in every run of a service on empty tables whose access lifetime leads
to a date at all times of the run. For every user:

* there are as many sessions as there were successful logins of the user and successful refreshes of
  the user's tokens;
* those that are not revoked, the sessions ended by single logouts and the sessions ended together are
  as many as the logins;
* whenever all sessions of the user are ended, those that were not revoked just before are counted,
  and who asks again at once is told of none. -/
theorem sessions_accounted (s : TableService) (pool : HashingPool) (l : List (Occasion Condition))
    (hdates : ∀ o ∈ l, o.now.after? s.settings.accessLifetime ≠ none) (u : UserId) :
    let xs := (s.run l (.fresh pool)).1
    let st := (s.run l (.fresh pool)).2
    st.tables.sessions.countP (·.userId == u) = logins xs u + refreshes xs u
    ∧ openSessions st.tables.sessions u + (logouts xs u + endedTogether xs u) = logins xs u
    ∧ ∀ (o : Occasion Condition) (n : Nat), (s.visit o st).1 = ⟨.logoutAll u, .ok n⟩ →
        n = openSessions st.tables.sessions u
        ∧ ∀ o' : Occasion Condition, o'.request = .logoutAll u →
          (∀ m : Nat, (s.visit o' (s.visit o st).2).1 = ⟨.logoutAll u, .ok m⟩ → m = 0)
          ∧ (o'.condition.answers = true → o'.condition.troubles = [] →
            (s.visit o' (s.visit o st).2).1 = ⟨.logoutAll u, .ok (0 : Nat)⟩) := by
  intro xs st
  have hledger : Ledger st.tables.sessions xs := TableService.run_ledger pool l hdates
  refine ⟨hledger.total u, hledger.balance u, fun o n hx => ?_⟩
  obtain ⟨hn, hleft⟩ := TableService.visit_counts hx
  refine ⟨hn, fun o' ho' => ?_⟩
  have hnone : ∀ m : Nat, (s.visit o' (s.visit o st).2).1 = ⟨.logoutAll u, .ok m⟩ → m = 0 := by
    intro m hm
    exact (TableService.visit_counts hm).1.trans hleft
  refine ⟨hnone, fun hanswers hcalm => ?_⟩
  obtain ⟨m, hm⟩ : ∃ m : Nat, (s.visit o' (s.visit o st).2).1 = ⟨.logoutAll u, .ok m⟩ :=
    TableService.visit_logoutAll ho' hanswers hcalm
  rw [hm, hnone m hm]

/-! ### A user who leaves -/

/-- The identifier that is drawn for whoever joins first. -/
def ada : UserId := ⟨.ofNat 0xa348e3f60e9649639f8cfadd349f926c⟩

/-- Somebody registers and logs in. -/
def joiningIn : List (Occasion Condition) :=
  [joining {}, { returning {} with request := .login "ada@example.com" "correct horse" ⟨none, none⟩ }]

/-- All sessions of the user are ended. -/
def leaving : Occasion Condition := ⟨.logoutAll ada, .ofSeconds 120, ⟨.ofSeed 4, none⟩, {}⟩

theorem sessions_accounted_leaving :
    (∀ o ∈ joiningIn, o.now.after? loneService.settings.accessLifetime ≠ none)
      ∧ (loneService.visit leaving (loneService.run joiningIn (.fresh lightPool)).2).1
          = ⟨.logoutAll ada, .ok (1 : Nat)⟩ := by
  have hdates : ∀ o ∈ joiningIn, o.now.after? loneService.settings.accessLifetime ≠ none := by
    decide
  -- the login succeeds by what is known of logins; computing it would hash the password again
  have hid : (loneService.service.visit Database.meet (joining {})
      (.fresh lightPool)).1.account?.map (·.id) = some ada := by decide +kernel
  have hopened : (loneService.service.visit Database.meet (joining {})
      (.fresh lightPool)).1.account?.isSome = true := by decide +kernel
  have hraw : Email.parse "Ada@Example.com" = Email.parse "ada@example.com" := by
    decide +kernel
  have hagrees : loneService.service.LoginAgrees Database.meet (.fresh lightPool)
      fun o st => o.AdmitsLogin loneService.settings st.tables :=
    loneService.loginAgrees rfl (by decide) ⟨by decide, by decide⟩
  obtain ⟨tokens, htokens, raw, user, hmem, -, huser⟩ :=
    @Service.LoginAgrees.registered _ _ _ _ _ _ hagrees (joining {}) (returning {}) _ _ _
      ⟨none, none⟩ rfl hopened hraw returning_admitsLogin
  have hjoined : (loneService.service.visit Database.meet (joining {}) (.fresh lightPool)).1
      = ⟨.register raw "correct horse", .ok user⟩ := (List.mem_singleton.mp hmem).symm
  have hada : tokens.userId = ada := by
    rw [hjoined] at hid
    exact huser.symm.trans (Option.some.inj hid)
  have hxs : (loneService.run joiningIn (.fresh lightPool)).1
      = [⟨.register raw "correct horse", .ok user⟩,
        ⟨.login "ada@example.com" "correct horse" ⟨none, none⟩, .ok tokens⟩] := by
    show [_, _] = _
    rw [← hjoined, ← htokens]
  obtain ⟨-, hbalance, hcounts⟩ := sessions_accounted loneService lightPool joiningIn hdates ada
  obtain ⟨n, hn⟩ : ∃ n : Nat, (loneService.visit leaving
      (loneService.run joiningIn (.fresh lightPool)).2).1 = ⟨.logoutAll ada, .ok n⟩ :=
    TableService.visit_logoutAll rfl rfl rfl
  obtain ⟨hopen, -⟩ := hcounts leaving n hn
  have hlogins : logins (loneService.run joiningIn (.fresh lightPool)).1 ada = 1 := by
    rw [hxs, logins, List.countP_cons, List.countP_singleton]
    show (if tokens.userId == ada then 1 else 0) + 0 = 1
    rw [hada, beq_self_eq_true, if_pos rfl]
  have hlogouts : logouts (loneService.run joiningIn (.fresh lightPool)).1 ada = 0 := by
    rw [hxs]
    rfl
  have hended : endedTogether (loneService.run joiningIn (.fresh lightPool)).1 ada = 0 := by
    rw [hxs]
    rfl
  have hone : n = 1 := by omega
  subst hone
  exact ⟨hdates, hn⟩

end SessionAuth
