import SessionAuth.Proofs.Service.Accounting
import SessionAuth.Proofs.Service.AppendOnly

/-!
What is handed out, and what is stored of it.

A login and a refresh put the same tokens together, in a different order and from different places: the
user comes from the row with an address or from the owner of a session, the access token is signed
ahead of what is written or behind it. `Store.Records` says what both need of a store, and from it
follows, for either store, that the tokens that are handed out are those of one user and that one
session has been added for them (`Store.Records.visit`).
-/

set_option autoImplicit false

namespace SessionAuth

open Database (Condition Ready Within SessionRow NewSession UserRow Tables)

variable {σ τ V ρ : Type}

/-! ## Tokens -/

/-- **Tokens for a user**, as they are put together at a time. The access token is good up to an instant
of its own. -/
structure IssuedTokens.AreFor (tokens : IssuedTokens) (s : Service σ) (now : Instant) (user : User)
    (accessEnd : Instant) : Prop where
  userId : tokens.userId = user.id
  accessEnd_eq : now.after? s.settings.accessLifetime = some accessEnd
  accessToken : tokens.accessToken = s.signer.encode
    (.forUser user.id.toText user.email.text s.signer.issuer now accessEnd)
  refreshToken : ∃ b : Bytes, b.length = RefreshSecret.byteCount
    ∧ tokens.refreshToken = RefreshSecret.ofBytes b
  refreshExpiresAt : now.after? s.settings.refreshLifetime = some tokens.refreshExpiresAt

theorem TokenSigner.mint_eq_ok {s : TokenSigner} {now ends : Instant} {subject email token : String}
    {lifetime : Duration} (h : s.mint now subject email lifetime = .ok (token, ends)) :
    now.after? lifetime = some ends
      ∧ token = s.encode (.forUser subject email s.issuer now ends) := by
  unfold mint at h
  split at h
  · cases h
  · split at h
    · cases h
    · rename_i ends' hafter
      obtain ⟨rfl, rfl⟩ := Prod.mk.inj (Except.ok.inj h)
      exact ⟨hafter, rfl⟩

/-- What is drawn as a secret is the text of so many bytes. -/
theorem RefreshSecret.ofBytes_of_draw? {r r' : RandomSource} {secret : String}
    (h : draw? r = some (secret, r')) :
    ∃ b : Bytes, b.length = byteCount ∧ secret = ofBytes b := by
  obtain ⟨⟨b, rest⟩, hdraw, heq⟩ := Option.map_eq_some_iff.mp h
  obtain ⟨rfl, -⟩ := Prod.mk.inj heq
  exact ⟨b, RandomSource.length_of_draw? hdraw, rfl⟩

namespace Service

variable {s : Service σ} {st : ServiceState σ} {user : User}

theorem mintAccess_signs :
    Ensures (s.mintAccess user) st
      (fun token st' => st' = st ∧ ∃ ends, st.world.now.after? s.settings.accessLifetime = some ends
        ∧ token = s.signer.encode
            (.forUser user.id.toText user.email.text s.signer.issuer st.world.now ends))
      (fun _ _ => True) := by
  refine Ensures.get_bind ?_
  dsimp only
  split
  · rename_i token ends hmint
    exact ⟨rfl, ends, TokenSigner.mint_eq_ok hmint⟩
  · exact internal_ensures fun _ _ => trivial

/-- Tokens are put together around a secret and its expiry. -/
theorem issue_areFor {secret : String} {expires : Instant}
    (hsecret : ∃ b : Bytes, b.length = RefreshSecret.byteCount ∧ secret = RefreshSecret.ofBytes b)
    (hexpires : st.world.now.after? s.settings.refreshLifetime = some expires) :
    Ensures (s.issue user secret expires) st
      (fun tokens st' => st' = st ∧ tokens.refreshToken = secret ∧ tokens.refreshExpiresAt = expires
        ∧ ∃ accessEnd, tokens.AreFor s st.world.now user accessEnd)
      (fun _ _ => True) := by
  refine Ensures.bind_mono mintAccess_signs (fun _ _ _ => trivial) ?_
  rintro token _ ⟨rfl, ends, hends, htoken⟩
  exact ⟨rfl, rfl, rfl, ends, rfl, hends, htoken, hsecret, hexpires⟩

end Service

/-! ## What is recorded -/

/-- Tokens are handed out by logins and by refreshes. -/
theorem Exchange.eq_of_issued? {x : Exchange} {tokens : IssuedTokens} (h : x.issued? = some tokens) :
    (∃ email password client, x = ⟨.login email password client, .ok tokens⟩)
      ∨ ∃ raw client, x = ⟨.refresh raw client, .ok tokens⟩ := by
  obtain ⟨q, e | a⟩ := x
  · cases q <;> cases h
  cases q with
  | login email password client =>
    obtain rfl : a = tokens := Option.some.inj h
    exact Or.inl ⟨email, password, client, rfl⟩
  | refresh raw client =>
    obtain rfl : a = tokens := Option.some.inj h
    exact Or.inr ⟨raw, client, rfl⟩
  | _ => cases h

/-- The client that a session would be opened for by a request. -/
def Request.client? : Request → Option Client
  | .login _ _ client => some client
  | .refresh _ client => some client
  | _ => none

/-- **A store that records sessions**, seen through a view: looking for a user changes nothing in view, and
whoever is found is held; opening a session and replacing one adds one session, for a given owner,
secret, expiry and client. A store that has met the conditions of a request is ready for it. -/
structure Store.Records (store : Store σ) (change : τ → σ → σ) (ready : σ → Prop) (view : σ → V)
    (holds : V → User → Prop) (adds : V → UserId → String → Instant → Client → V → Prop) :
    Prop where
  met : ∀ c m, ready (change c m) ∧ view (change c m) = view m
  findUserByEmail : ∀ {w : World σ} (email : Email), ready w.store →
    Ensures (store.findUserByEmail email) w
      (fun found w' => w'.now = w.now ∧ ready w'.store ∧ view w'.store = view w.store
        ∧ ∀ user, found = some user → holds (view w.store) user)
      (fun _ _ => True)
  createSession : ∀ {w : World σ} (owner : UserId) (secret : String) (expiresAt : Instant)
    (client : Client), ready w.store →
    Ensures (store.createSession owner secret expiresAt client none) w
      (fun _ w' => adds (view w.store) owner secret expiresAt client (view w'.store))
      (fun _ _ => True)
  rotateSession : ∀ {w : World σ} (oldSecret newSecret : String) (expiresAt : Instant)
    (client : Client), ready w.store →
    Ensures (store.rotateSession oldSecret newSecret expiresAt client) w
      (fun r w' => w'.now = w.now ∧ holds (view w.store) r.user
        ∧ adds (view w.store) r.user.id newSecret expiresAt client (view w'.store))
      (fun _ _ => True)

section Records

variable {change : τ → σ → σ} {ready : σ → Prop} {view : σ → V} {holds : V → User → Prop}
  {adds : V → UserId → String → Instant → Client → V → Prop} {s : Service σ}
  {st : ServiceState σ} {client : Client}

/-- **What is handed out matches what is recorded**, between two states of a service. -/
def Matches (s : Service σ) (view : σ → V) (holds : V → User → Prop)
    (adds : V → UserId → String → Instant → Client → V → Prop) (client : Client)
    (st : ServiceState σ) (tokens : IssuedTokens) (st' : ServiceState σ) : Prop :=
  ∃ user accessEnd, holds (view st.world.store) user
    ∧ tokens.AreFor s st.world.now user accessEnd
    ∧ adds (view st.world.store) tokens.userId tokens.refreshToken tokens.refreshExpiresAt client
        (view st'.world.store)

namespace Store.Records

theorem openSession (h : s.store.Records change ready view holds adds) {user : User}
    (hst : ready st.world.store) (huser : holds (view st.world.store) user) :
    Ensures (s.openSession user client) st (Matches s view holds adds client st)
      (fun _ _ => True) := by
  refine Ensures.bind_mono Service.newRefreshSecret_ensures (fun _ _ _ => trivial) ?_
  rintro secret st₁ ⟨h₁, rest, hdraw⟩
  refine Ensures.bind_mono Service.expiryAfter_ensures (fun _ _ _ => trivial) ?_
  rintro expires st₁ ⟨rfl, hexpires⟩
  refine Ensures.bind_mono (Service.issue_areFor (RefreshSecret.ofBytes_of_draw? hdraw) hexpires)
    (fun _ _ h => h) ?_
  rintro tokens st₁ ⟨rfl, rfl, rfl, accessEnd, htokens⟩
  -- only the session is still to be written; so far the store has not been touched
  rw [← h₁.store] at hst huser
  refine Ensures.bind_mono (Service.boundedSession_ensures
    (h.createSession user.id tokens.refreshToken tokens.refreshExpiresAt client hst))
    (fun _ _ _ => trivial) ?_
  rintro id _ ⟨w, rfl, hadds⟩
  refine Serve.report_bind fun st₂ h₂ => ⟨user, accessEnd, ?_, ?_, ?_⟩
  · rw [← h₁.store]
    exact huser
  · rw [← h₁.now]
    exact htokens
  · show adds _ _ _ _ _ (view st₂.world.store)
    rw [h₂.store, ← h₁.store, htokens.userId]
    exact hadds

theorem login (h : s.store.Records change ready view holds adds) {email password : String}
    (hst : ready st.world.store) :
    Ensures (s.login email password client) st (Matches s view holds adds client st)
      (fun _ _ => True) := by
  refine Ensures.bind_mono Service.requireEmail_ensures (fun _ _ _ => trivial) ?_
  rintro address st₀ ⟨rfl, -⟩
  show Ensures (if password.isEmpty then _ else _) _ _ _
  split
  · trivial
  refine Ensures.bind_mono (Service.bounded_ensures (h.findUserByEmail address hst))
    (fun _ _ _ => trivial) ?_
  rintro (fault | _ | user) _ ⟨w, rfl, hr⟩
  · exact Service.internal_ensures fun _ _ => trivial
  · refine Ensures.bind_mono Service.equalizeUnknownUser_quiet (fun _ _ _ => trivial) ?_
    intro _ _ _
    exact Serve.report_bind fun _ _ => trivial
  · obtain ⟨hnow, hready, hview, hfound⟩ := hr
    have huser : holds (view st₀.world.store) user := hfound user rfl
    refine Ensures.bind_mono Service.authenticate_ensures (fun _ _ _ => trivial) ?_
    rintro _ st₂ ⟨h₂, -⟩
    -- the session is opened in another state, which looks the same and has the same time
    have hstore : view st₂.world.store = view st₀.world.store := by
      rw [h₂.store]
      exact hview
    have hclock : st₂.world.now = st₀.world.now := h₂.now.trans hnow
    have hopened : Ensures (s.openSession user client) st₂ (Matches s view holds adds client st₂)
        (fun _ _ => True) := h.openSession (h₂.store ▸ hready) (hstore ▸ huser)
    refine hopened.mono ?_ fun _ _ h => h
    intro tokens st' hmatches
    unfold Matches at hmatches ⊢
    rw [hstore, hclock] at hmatches
    exact hmatches

theorem refresh (h : s.store.Records change ready view holds adds) {raw : String}
    (hst : ready st.world.store) :
    Ensures (s.refresh raw client) st (Matches s view holds adds client st)
      (fun _ _ => True) := by
  refine Ensures.bind_mono Service.requireArgument_ensures (fun _ _ _ => trivial) ?_
  rintro secret st₀ ⟨rfl, -⟩
  refine Ensures.bind_mono Service.newRefreshSecret_ensures (fun _ _ _ => trivial) ?_
  rintro newSecret st₁ ⟨h₁, rest, hdraw⟩
  refine Ensures.bind_mono Service.expiryAfter_ensures (fun _ _ _ => trivial) ?_
  rintro expires st₁ ⟨rfl, hexpires⟩
  rw [← h₁.store] at hst
  refine Ensures.bind_mono (Service.boundedSession_ensures
    (h.rotateSession secret newSecret expires client hst)) (fun _ _ _ => trivial) ?_
  rintro r _ ⟨w, rfl, hnow, huser, hadds⟩
  refine Serve.report_bind fun st₂ h₂ => ?_
  -- the access token is signed behind the rotation, and no time has passed since the expiry was set
  have hclock : st₂.world.now = st₁.world.now := h₂.now.trans hnow
  rw [← hclock] at hexpires
  refine (Service.issue_areFor (RefreshSecret.ofBytes_of_draw? hdraw) hexpires).mono ?_
    fun _ _ h => h
  rintro tokens st₃ ⟨rfl, rfl, rfl, accessEnd, htokens⟩
  rw [h₁.store] at huser hadds
  refine ⟨r.user, accessEnd, huser, ?_, ?_⟩
  · rw [← h₁.now, ← hclock]
    exact htokens
  · rw [h₂.store, htokens.userId]
    exact hadds

/-- **Whoever is handed tokens is handed those of one user, and one session has been added for them.** -/
theorem visit (h : s.store.Records change ready view holds adds) (o : Occasion τ)
    (st : ServiceState σ) {tokens : IssuedTokens}
    (htokens : (s.visit change o st).1.issued? = some tokens) :
    ∃ client user accessEnd, o.request.client? = some client ∧ holds (view st.world.store) user
      ∧ tokens.AreFor s o.now user accessEnd
      ∧ adds (view st.world.store) tokens.userId tokens.refreshToken tokens.refreshExpiresAt client
          (view (s.visit change o st).2.world.store) := by
  obtain ⟨hready, hview⟩ := h.met o.condition st.world.store
  have hmatches : ∃ client, o.request.client? = some client
      ∧ Matches s view holds adds client (st.meet change o) tokens (s.visit change o st).2 := by
    rcases Exchange.eq_of_issued? htokens with ⟨email, password, client, hx⟩ | ⟨raw, client, hx⟩
    · have hrequest : o.request = .login email password client := congrArg Exchange.request hx
      refine ⟨client, by rw [hrequest]; rfl, ?_⟩
      exact Service.visit_of_ok (q := .login email password client) (h.login hready) hx
    · have hrequest : o.request = .refresh raw client := congrArg Exchange.request hx
      refine ⟨client, by rw [hrequest]; rfl, ?_⟩
      exact Service.visit_of_ok (q := .refresh raw client) (h.refresh hready) hx
  obtain ⟨client, hclient, user, accessEnd, huser, hfor, hadds⟩ := hmatches
  rw [show (st.meet change o).world.store = change o.condition st.world.store from rfl, hview]
    at huser hadds
  exact ⟨client, user, accessEnd, hclient, huser, hfor, hadds⟩

end Store.Records

end Records

/-! ## One session more -/

/-- **One entry has been added**, behind the others, which persist. -/
structure Appends (P : ρ → ρ → Prop) (rows rows' : List ρ) (row : ρ) : Prop where
  others : Extends P rows rows'
  length : rows'.length = rows.length + 1
  last : rows'[rows.length]? = some row

theorem Extends.snoc {P : ρ → ρ → Prop} {rows marked : List ρ} (h : Extends P rows marked)
    (hlength : marked.length = rows.length) (row : ρ) : Appends P rows (marked ++ [row]) row := by
  refine ⟨h.append [row], ?_, ?_⟩
  · rw [List.length_append, hlength]
    rfl
  · rw [← hlength]
    exact List.getElem?_concat_length

/-! ## The tables -/

/-- **A row is the one of a session**: it says whose the session is and until when, knows the secret by its
digest, and is not revoked. Times are stored in microseconds. -/
structure Database.SessionRow.Stores (row : SessionRow) (owner : UserId) (secret : String)
    (expiresAt : Instant) (client : Client) : Prop where
  userId : row.userId = owner
  digest : row.digest = RefreshSecret.digest secret
  expiresAt : row.expiresAt = expiresAt.towardStorageEpoch
  userAgent : row.userAgent = client.userAgent
  ip : row.ip = client.ip.map IpAddress.toText
  revokedAt : row.revokedAt = none

/-- A user can be read from a row. -/
def Database.Tables.Holds (t : Tables) (user : User) : Prop :=
  ∃ row ∈ t.users, row.id = user.id ∧ Relational.loadRow row = .ok user

/-- **One session is added**, whose digest no other one has. -/
def Database.Tables.Adds (t : Tables) (owner : UserId) (secret : String) (expiresAt : Instant)
    (client : Client) (t' : Tables) : Prop :=
  ∃ row, Appends SessionRow.Persists t.sessions t'.sessions row
    ∧ row.Stores owner secret expiresAt client
    ∧ ∀ r ∈ t.sessions, r.digest ≠ RefreshSecret.digest secret

namespace Relational

theorem holds_of_loads {t : Tables} {test : UserRow → Bool} {user : User}
    (h : Loads (t.users.find? test) (some user)) : t.Holds user := by
  generalize hfind : t.users.find? test = found at h
  cases h with
  | @user row _ hread =>
    rw [readUser_cells] at hread
    have hload : loadRow row = .ok user := mapError_eq_ok hread
    exact ⟨row, List.mem_of_find?_eq_some hfind, (loadRow_id hload).symm, hload⟩

/-- A session that is inserted behind a revocation is one session more. -/
theorem adds_of_insertSession {t t' : Tables} {f : SessionRow → SessionRow} {marked : Tables}
    {id : SessionId} {owner : UserId} {secret : String} {expiresAt now : Instant} {client : Client}
    {rotatedFrom : Option SessionId} (hmarked : marked.sessions = t.sessions.map f)
    (hf : ∀ r : SessionRow, r.Persists (f r))
    (h : marked.insertSession
      (.of id owner (RefreshSecret.digest secret) expiresAt client rotatedFrom) now = .ok t') :
    t.Adds owner secret expiresAt client t' := by
  obtain ⟨rfl, -, hdigest⟩ := Database.insertSession_ok h
  have hlength : marked.sessions.length = t.sessions.length := by
    rw [hmarked, List.length_map]
  have hextends : Extends SessionRow.Persists t.sessions marked.sessions := by
    rw [hmarked]
    exact Extends.map hf t.sessions
  refine ⟨_, hextends.snoc hlength _, ⟨rfl, rfl, rfl, rfl, rfl, rfl⟩, fun r hr => ?_⟩
  rw [hmarked] at hdigest
  rw [← (hf r).digest]
  exact hdigest (f r) (List.mem_map_of_mem hr)

/-- **The tables record sessions.** -/
theorem records (lockTimeout : Duration) :
    (store lockTimeout).Records Database.meet Database.Ready Database.settled Tables.Holds
      Tables.Adds where
  met c db := ⟨Database.meet_ready c db, (Database.meet_ready c db).settled⟩
  findUserByEmail {w} email hw := by
    refine (findUserByEmail_ensures hw.faithful).mono ?_ fun _ _ _ => trivial
    rintro found w' ⟨hin, ht, hloads⟩
    refine ⟨hin.now, ⟨hin.atStart.trans hw.idle, hin.faithful hw.faithful⟩, ?_, ?_⟩
    · rw [hin.settled hw, ht, hw.settled]
    · rintro user rfl
      rw [hw.settled]
      exact holds_of_loads hloads
  createSession {w} owner secret expiresAt client hw := by
    refine (createSession_ensures hw.faithful).mono ?_ fun _ _ _ => trivial
    rintro id w' ⟨hin, hins⟩
    rw [hin.settled hw, hw.settled]
    exact adds_of_insertSession (List.map_id _).symm SessionRow.Persists.refl hins
  rotateSession {w} oldSecret newSecret expiresAt client hw := by
    refine (rotateSession_ensures hw.idle hw.faithful).mono ?_ fun _ _ _ => trivial
    rintro r w' ⟨⟨⟨old, hrot⟩, hnow⟩, hdone⟩
    rw [hdone.settled, hw.settled, hrot.owner_id]
    exact ⟨hnow, holds_of_loads hrot.owner, adds_of_insertSession Database.revoke_sessions
      (SessionRow.persists_revokedBy _ _) hrot.replaced⟩

end Relational

/-! ## The store in memory -/

/-- **A session is as it was opened**, in the same sense. -/
structure Session.Stores (a : Session) (owner : UserId) (secret : String) (expiresAt : Instant)
    (client : Client) : Prop where
  userId : a.userId = owner
  digest : a.digest = RefreshSecret.digest secret
  expiresAt : a.expiresAt = expiresAt
  client : a.client = client
  revokedAt : a.revokedAt = none

namespace MemoryStore

/-- The users and the sessions of a store. -/
def kept (m : MemoryStore) : List User × List Session := (m.users, m.sessions)

/-- **One session is added.** Nothing here keeps two sessions from having one digest. -/
def Adds (before : List User × List Session) (owner : UserId) (secret : String)
    (expiresAt : Instant) (client : Client) (behind : List User × List Session) : Prop :=
  ∃ a, Appends Session.Persists before.2 behind.2 a ∧ a.Stores owner secret expiresAt client

/-- **The store in memory records sessions.** -/
theorem records :
    store.Records meet (fun _ => True) kept (fun before user => user ∈ before.1) Adds where
  met _ _ := ⟨trivial, rfl⟩
  findUserByEmail email _ :=
    answering_ensures (fun _ => trivial) (fun _ _ => trivial) fun _ =>
      Act.store_bind ⟨rfl, trivial, rfl, fun _ => List.mem_of_find?_eq_some⟩
  createSession {w} owner secret expiresAt client _ :=
    answering_ensures (fun _ => trivial) (fun _ _ => trivial) fun _ =>
      Act.store_bind (Act.now_bind (Act.modifyStore_bind ⟨_,
        (Extends.refl Session.Persists.refl _).snoc rfl _, ⟨rfl, rfl, rfl, rfl, rfl⟩⟩))
  rotateSession {w} oldSecret newSecret expiresAt client _ := by
    refine answering_ensures (fun _ => trivial) (fun _ _ => trivial) fun _ => ?_
    refine Act.store_bind (Act.now_bind ?_)
    split
    · trivial
    rename_i old hold
    split
    · trivial
    · trivial
    rename_i hactive
    split
    · trivial
    rename_i user huser
    -- the replaced session is marked in its place, and the new one goes behind all others
    refine Act.modifyStore_bind ⟨rfl, List.mem_of_find?_eq_some huser, ?_⟩
    have hmarked : w.store.AppendOnly (w.store.revokeFirst (·.digest == old.digest) w.now) :=
      extends_replaced (m := w.store) hold hactive
    exact ⟨_, hmarked.snoc (length_updateFirst _ _ _) _, ⟨rfl, rfl, rfl, rfl, rfl⟩⟩

end MemoryStore

end SessionAuth
