import SessionAuth.Proofs.Service.Issued
import SessionAuth.Proofs.Service.Login
import SessionAuth.Proofs.Time.Instant
import SessionAuth.Proofs.Token.Signer

/-!
Lifetimes are exact or refused.

Two lifetimes are added to the clock when a user logs in, one for each token. A sum that has a date is
what is handed out, to the nanosecond for the refresh token and in whole seconds for the access token;
one that has none makes the login fail inside. Nothing in between happens, for lifetimes of any length:
the limit on what can be added is never reached ahead of the end of the calendar, and the seconds of
whatever ends by then are few enough for a signed word.

The tokens are put together at one place (`Service.issue_exact`), by one clock: looking for a user and
replacing a session do not move it, whatever a store does (`Store.KeepsTime`).
-/

set_option autoImplicit false

namespace SessionAuth

open Database (Within Tables)

variable {σ : Type}

/-! ## Dates -/

/-- **Lifetimes that end**: both sums with the clock have dates. -/
structure AuthSettings.Ends (settings : AuthSettings) (now : Instant) : Prop where
  access : Instant.HasDate ⟨now.nanoseconds + settings.accessLifetime.nanoseconds⟩
  refresh : Instant.HasDate ⟨now.nanoseconds + settings.refreshLifetime.nanoseconds⟩

/-- From 1970 on, it is the date alone that decides whether a lifetime can be added. -/
theorem Instant.after?_ne_none_iff_hasDate {now : Instant} {d : Duration} (hclock : epoch ≤ now) :
    now.after? d ≠ none ↔ HasDate ⟨now.nanoseconds + d.nanoseconds⟩ := by
  rw [after?_ne_none_iff]
  refine ⟨fun h => h.2, fun hdate => ⟨?_, hdate⟩⟩
  -- the calendar comes to its end long before the milliseconds of a signed word do
  have hlast : now.nanoseconds + d.nanoseconds ≤ last.nanoseconds := hdate.2
  have hclock' : 0 ≤ now.nanoseconds := hclock
  simp only [last, ofParts, Duration.longest, Duration.ofMillis, nanosPerSecond] at hlast ⊢
  omega

theorem AuthSettings.ends_iff {settings : AuthSettings} {now : Instant}
    (hclock : Instant.epoch ≤ now) :
    settings.Ends now ↔ now.after? settings.refreshLifetime ≠ none
      ∧ now.after? settings.accessLifetime ≠ none := by
  rw [Instant.after?_ne_none_iff_hasDate hclock, Instant.after?_ne_none_iff_hasDate hclock]
  exact ⟨fun h => ⟨h.refresh, h.access⟩, fun h => ⟨h.2, h.1⟩⟩

/-! ## What a token says -/

/-- The claims that can be read in a token, whoever has signed it. -/
def Claims.ofToken? (token : String) : Option Claims := do
  let (message, _) ← TokenSigner.splitAtLastDot? token.toList
  let (_, payload) ← TokenSigner.splitAtLastDot? message
  let input ← (TokenSigner.partBytes payload).toOption
  (Claims.parse input).toOption

/-- What is signed can be read, if its times are signed words. -/
theorem Claims.ofToken?_encode (s : TokenSigner) {c : Claims}
    (hissued : Decimal.isSignedWord c.issuedAt = true)
    (hexpires : Decimal.isSignedWord c.expiresAt = true) : ofToken? (s.encode c) = some c := by
  unfold ofToken? TokenSigner.encode TokenSigner.signature TokenSigner.jsonPart
  rw [String.toList_ofList, TokenSigner.splitAtLastDot?_append (TokenSigner.dot_notMem_part _)]
  show (TokenSigner.splitAtLastDot? _ >>= _) = _
  rw [TokenSigner.splitAtLastDot?_append (TokenSigner.dot_notMem_part _)]
  show ((TokenSigner.partBytes _).toOption >>= _) = _
  rw [TokenSigner.partBytes_part]
  show (Claims.parse _).toOption = _
  rw [Claims.parse_toJson c hissued hexpires]
  rfl

/-! ## Exact times -/

/-- **Tokens with exact times**, handed out at a time under given settings. The seconds of the access
lifetime are told rounded down, and narrowing them to a signed word loses nothing; the access token has
been signed for the seconds of its issue and of its end, and says so; the refresh token is good to the
nanosecond. -/
structure IssuedTokens.Exact (tokens : IssuedTokens) (signer : TokenSigner)
    (settings : AuthSettings) (now : Instant) : Prop where
  accessSeconds : IsFloor tokens.accessTokenSeconds settings.accessLifetime.nanoseconds
  narrowed : (UInt64.ofNat settings.accessLifetime.seconds).toInt64.toInt
    = tokens.accessTokenSeconds
  claims : ∃ c : Claims, tokens.accessToken = signer.encode c
    ∧ Claims.ofToken? tokens.accessToken = some c
    ∧ IsFloor c.issuedAt now.nanoseconds
    ∧ IsFloor c.expiresAt (now.nanoseconds + settings.accessLifetime.nanoseconds)
  refreshEnd : tokens.refreshExpiresAt.nanoseconds
    = now.nanoseconds + settings.refreshLifetime.nanoseconds

/-- **A store by whose calls no time passes**, as far as tokens are put together behind them. -/
structure Store.KeepsTime (store : Store σ) : Prop where
  findUserByEmail : ∀ {w : World σ} (email : Email),
    Ensures (store.findUserByEmail email) w (fun _ w' => w'.now = w.now) (fun _ _ => True)
  rotateSession : ∀ {w : World σ} (oldSecret newSecret : String) (expiresAt : Instant)
    (client : Client),
    Ensures (store.rotateSession oldSecret newSecret expiresAt client) w
      (fun _ w' => w'.now = w.now) (fun _ _ => True)

theorem Relational.keepsTime (lockTimeout : Duration) : (store lockTimeout).KeepsTime where
  findUserByEmail _ := (findUser_within rfl).mono (fun _ _ h => h.now) fun _ _ _ => trivial
  rotateSession _ _ _ _ := by
    show Ensures (Relational.rotateSession _ _ _ _ _) _ _ _
    rw [rotateSession_eq]
    exact Database.inTransaction_now fun w =>
      rotation_within.mono (fun _ _ h => h.now) fun _ _ _ => trivial

theorem MemoryStore.keepsTime : store.KeepsTime where
  findUserByEmail _ := answering_ensures (fun _ => trivial) (fun _ _ => trivial) fun _ => rfl
  rotateSession _ _ _ _ :=
    rotateSession_ensures.mono (fun _ _ h => h.1) fun _ _ _ => trivial

section Exact

variable {s : Service σ} {st : ServiceState σ} {client : Client}

/-- Tokens are put together with exact times. -/
theorem Service.issue_exact {user : User} {secret : String} {expires : Instant}
    (hexpires : st.world.now.after? s.settings.refreshLifetime = some expires) :
    Ensures (s.issue user secret expires) st
      (fun tokens st' => st' = st ∧ tokens.Exact s.signer s.settings st.world.now)
      (fun _ _ => True) := by
  refine Ensures.bind_mono mintAccess_signs (fun _ _ _ => trivial) ?_
  rintro token _ ⟨rfl, ends, hends, rfl⟩
  -- that there is a date says all: the sum is exact, and its seconds are few for a signed word
  obtain ⟨hissued, hexpiry⟩ := Instant.seconds_of_after? hends
  obtain ⟨hlong, -, rfl⟩ := Instant.after?_eq_some_iff.mp hends
  obtain ⟨-, -, rfl⟩ := Instant.after?_eq_some_iff.mp hexpires
  refine ⟨rfl, s.settings.accessLifetime.isFloor_seconds, Duration.seconds_narrowed hlong,
    ⟨_, rfl, Claims.ofToken?_encode s.signer hissued hexpiry, ?_, ?_⟩, rfl⟩
  · exact Instant.isFloor_seconds _
  · exact Instant.isFloor_seconds _

theorem Service.openSession_exact (user : User) :
    Ensures (s.openSession user client) st
      (fun tokens _ => tokens.Exact s.signer s.settings st.world.now) (fun _ _ => True) := by
  refine Ensures.bind_mono newRefreshSecret_ensures (fun _ _ _ => trivial) ?_
  rintro secret st₁ ⟨h₁, -⟩
  refine Ensures.bind_mono expiryAfter_ensures (fun _ _ _ => trivial) ?_
  rintro expires st₁ ⟨rfl, hexpires⟩
  rw [← h₁.now]
  refine Ensures.bind (issue_exact hexpires) ?_
  rintro tokens st₁ ⟨rfl, hexact⟩
  -- the tokens are complete, and do not change any more while the session is stored
  refine Ensures.bind (Ensures.itself.mono (fun _ _ _ => trivial) fun _ _ _ => trivial) ?_
  intro id st₂ _
  exact Serve.report_bind fun _ _ => hexact

namespace Store.KeepsTime

theorem login (h : s.store.KeepsTime) (raw password : String) :
    Ensures (s.login raw password client) st
      (fun tokens _ => tokens.Exact s.signer s.settings st.world.now) (fun _ _ => True) := by
  refine Ensures.bind_mono Service.requireEmail_ensures (fun _ _ _ => trivial) ?_
  rintro email st₀ ⟨rfl, -⟩
  show Ensures (if password.isEmpty then _ else _) _ _ _
  split
  · trivial
  refine Ensures.bind_mono (Service.bounded_ensures (h.findUserByEmail email))
    (fun _ _ _ => trivial) ?_
  rintro (fault | _ | user) _ ⟨w, rfl, hnow⟩
  · exact Service.internal_ensures fun _ _ => trivial
  · refine Ensures.bind_mono Service.equalizeUnknownUser_quiet (fun _ _ _ => trivial) ?_
    intro _ _ _
    exact Serve.report_bind fun _ _ => trivial
  · refine Ensures.bind_mono Service.authenticate_ensures (fun _ _ _ => trivial) ?_
    rintro _ st₂ ⟨h₂, -⟩
    have hclock : st₂.world.now = st₀.world.now := h₂.now.trans hnow
    rw [← hclock]
    exact Service.openSession_exact user

/-- The two tokens of a refresh are timed on either side of the rotation, by the same clock. -/
theorem refresh (h : s.store.KeepsTime) (raw : String) :
    Ensures (s.refresh raw client) st
      (fun tokens _ => tokens.Exact s.signer s.settings st.world.now) (fun _ _ => True) := by
  refine Ensures.bind_mono Service.requireArgument_ensures (fun _ _ _ => trivial) ?_
  rintro secret st₀ ⟨rfl, -⟩
  refine Ensures.bind_mono Service.newRefreshSecret_ensures (fun _ _ _ => trivial) ?_
  rintro newSecret st₁ ⟨h₁, -⟩
  refine Ensures.bind_mono Service.expiryAfter_ensures (fun _ _ _ => trivial) ?_
  rintro expires st₁ ⟨rfl, hexpires⟩
  refine Ensures.bind_mono (Service.boundedSession_ensures
    (h.rotateSession secret newSecret expires client)) (fun _ _ _ => trivial) ?_
  rintro r _ ⟨w, rfl, hnow⟩
  refine Serve.report_bind fun st₂ h₂ => ?_
  -- the access token is signed behind the rotation, which has taken no time
  have hclock : st₂.world.now = st₁.world.now := h₂.now.trans hnow
  rw [← hclock] at hexpires
  rw [← h₁.now, ← hclock]
  exact (Service.issue_exact hexpires).mono (fun _ _ h => h.2) fun _ _ _ => trivial

end Store.KeepsTime

/-- **A user who is expected is let in exactly if both lifetimes end**, and then with exact times; otherwise
the fault is an internal one. -/
theorem Service.login_exact {user : User} {raw password : String} (hstore : s.store.KeepsTime)
    (hclock : Instant.epoch ≤ st.world.now)
    (hexpects : s.Expects st.world user raw password client) (hfree : 0 < st.pool.free) :
    Ensures (s.login raw password client) st
      (fun tokens _ => s.settings.Ends st.world.now
        ∧ tokens.Exact s.signer s.settings st.world.now)
      (fun e _ => ¬s.settings.Ends st.world.now ∧ e = .refused .internal) := by
  by_cases hends : s.settings.Ends st.world.now
  · obtain ⟨hrefresh, haccess⟩ := (AuthSettings.ends_iff hclock).mp hends
    refine ((login_done hexpects hfree hrefresh haccess).and (hstore.login raw password)).mono ?_ ?_
    · exact fun _ _ h => ⟨hends, h.2⟩
    · exact fun _ _ h => h.1.elim
  · have hundated : st.world.now.after? s.settings.refreshLifetime = none
        ∨ st.world.now.after? s.settings.accessLifetime = none := by
      rw [AuthSettings.ends_iff hclock, not_and_or, not_not, not_not] at hends
      exact hends
    refine (login_undated hexpects hfree hundated).mono (fun _ _ h => h.elim) ?_
    exact fun _ _ h => ⟨hends, h⟩

end Exact

/-! ## Both stores -/

/-- **Nothing but the lifetimes can stand in the way of a login**, on tables: the database answers and
disturbs no statement, the credentials are those of a row, there is a permit to check them with, and the
secret and the identifier that are drawn are new to the tables. -/
structure Relational.Welcomes (st : ServiceState Database) (raw password : String) : Prop where
  fair : st.world.store.Fair
  permit : 0 < st.pool.free
  nonempty : password.isEmpty = false
  credentials : ∃ email row, Email.parse raw = .ok email
    ∧ st.world.store.tables.users.find? (·.email == email.text) = some row
    ∧ Hasher.verify password row.passwordHash = .ok ()
  draws : ∃ secret rest id rest', RefreshSecret.draw? st.world.random = some (secret, rest)
    ∧ Uuid.random? rest = some (id, rest')
    ∧ (∀ row ∈ st.world.store.tables.sessions, row.id ≠ ⟨id⟩)
    ∧ ∀ row ∈ st.world.store.tables.sessions, row.digest ≠ RefreshSecret.digest secret

/-- **Nothing but the lifetimes can stand in the way of a login** in memory. Sessions are counted there, so
that a secret is all that has to be drawn. -/
structure MemoryStore.Welcomes (st : ServiceState MemoryStore) (raw password : String) : Prop where
  finds : st.world.store.misbehaviours.findUserByEmail = none
  creates : st.world.store.misbehaviours.createSession = none
  permit : 0 < st.pool.free
  nonempty : password.isEmpty = false
  credentials : ∃ email user, Email.parse raw = .ok email
    ∧ st.world.store.users.find? (·.email == email) = some user
    ∧ Hasher.verify password user.passwordHash = .ok ()
  random : st.world.random.canRead RefreshSecret.byteCount = true

/-- **Lifetimes are exact or refused.** From 1970 on, whoever is welcome is let in exactly if both lifetimes
end, and is refused for an internal fault otherwise; and in every state, whatever is handed out by a login
or a refresh has exact times. -/
structure Service.TimesExactly (s : Service σ)
    (welcomes : ServiceState σ → String → String → Prop) : Prop where
  decided : ∀ (st : ServiceState σ) (raw password : String) (client : Client),
    Instant.epoch ≤ st.world.now → welcomes st raw password →
    Ensures (s.login raw password client) st
      (fun tokens _ => s.settings.Ends st.world.now
        ∧ tokens.Exact s.signer s.settings st.world.now)
      (fun e _ => ¬s.settings.Ends st.world.now ∧ e = .refused .internal)
  login : ∀ (st : ServiceState σ) (raw password : String) (client : Client),
    Ensures (s.login raw password client) st
      (fun tokens _ => tokens.Exact s.signer s.settings st.world.now) (fun _ _ => True)
  refresh : ∀ (st : ServiceState σ) (raw : String) (client : Client),
    Ensures (s.refresh raw client) st
      (fun tokens _ => tokens.Exact s.signer s.settings st.world.now) (fun _ _ => True)

/-- It is enough that the store keeps time, and that whoever is welcome is expected. -/
theorem Store.KeepsTime.timesExactly {s : Service σ} (h : s.store.KeepsTime)
    {welcomes : ServiceState σ → String → String → Prop}
    (hpermit : ∀ st raw password, welcomes st raw password → 0 < st.pool.free)
    (hexpects : ∀ st raw password client, welcomes st raw password →
      ∃ user, s.Expects st.world user raw password client) : s.TimesExactly welcomes where
  decided st raw password client hclock hwelcome := by
    obtain ⟨user, huser⟩ := hexpects st raw password client hwelcome
    exact Service.login_exact h hclock huser (hpermit st raw password hwelcome)
  login _ raw password _ := h.login raw password
  refresh _ raw _ := h.refresh raw

/-- **Lifetimes are exact or refused on either store**, for every signer and all settings, however long the
lifetimes are. -/
theorem lifetimes_exact_or_refused :
    (∀ s : TableService, s.service.TimesExactly Relational.Welcomes)
    ∧ ∀ (signer : TokenSigner) (settings : AuthSettings),
      (memoryService signer settings).TimesExactly MemoryStore.Welcomes := by
  refine ⟨fun s => ?_, fun signer settings => ?_⟩
  · refine Store.KeepsTime.timesExactly (s := s.service) (Relational.keepsTime s.lockTimeout)
      (fun _ _ _ h => h.permit) fun st raw password client h => ?_
    obtain ⟨email, row, hemail, hfind, hverify⟩ := h.credentials
    obtain ⟨secret, rest, id, rest', hsecret, hdraw, hnewId, hnewDigest⟩ := h.draws
    obtain ⟨user, -, hexpects⟩ : ∃ user : User, user.id = row.id
        ∧ s.service.Expects st.world user raw password client :=
      s.expects h.fair hemail h.nonempty hfind hverify hsecret hdraw hnewId hnewDigest
    exact ⟨user, hexpects⟩
  · refine Store.KeepsTime.timesExactly (s := memoryService signer settings) MemoryStore.keepsTime
      (fun _ _ _ h => h.permit) fun st raw password client h => ?_
    obtain ⟨email, user, hemail, hfind, hverify⟩ := h.credentials
    exact ⟨user, MemoryStore.expects h.finds h.creates h.random hemail h.nonempty hfind hverify⟩

/-! ### The last nanosecond of the calendar -/

/-- What is kept of the password of a user. -/
@[irreducible]
def guestHash : String := (lightPool.hasher.encode "correct horse" (List.replicate 16 0)).toText

theorem verify_guestHash : Hasher.verify "correct horse" guestHash = .ok () := by
  unfold guestHash
  rw [Hasher.verify_encode ⟨by decide, by decide⟩ rfl, if_pos rfl]

/-- A user in memory. -/
def guest : User where
  id := ⟨.ofNat 2⟩
  email := ⟨"ada@example.com"⟩
  passwordHash := guestHash
  emailVerifiedAt := none
  createdAt := .epoch
  updatedAt := .epoch

/-- A service in memory that knows the user, at the start of 1970. -/
def hosting : ServiceState MemoryStore :=
  { freshMemory with world := { freshMemory.world with store := { users := [guest] } } }

/-- The same on tables. -/
def hostingTables : ServiceState Database :=
  { ServiceState.fresh lightPool with
    world :=
      { (ServiceState.fresh lightPool).world with store := { tables := { users := [.ofUser guest] } } } }

/-- All of the calendar that lies ahead, and more nanoseconds. -/
def lastLifetime (more : Nat) : Duration := .ofParts 8210266876799 (999999999 + more)

theorem hosting_welcomes : MemoryStore.Welcomes hosting "Ada@example.com" "correct horse" where
  finds := rfl
  creates := rfl
  permit := by decide
  nonempty := by decide
  credentials := ⟨⟨"ada@example.com"⟩, guest, by decide +kernel, rfl, verify_guestHash⟩
  random := rfl

theorem hostingTables_welcomes :
    Relational.Welcomes hostingTables "Ada@example.com" "correct horse" where
  fair := ⟨rfl, rfl⟩
  permit := by decide
  nonempty := by decide
  credentials :=
    ⟨⟨"ada@example.com"⟩, .ofUser guest, by decide +kernel, rfl, verify_guestHash⟩
  draws := ⟨_, _, _, _, rfl, rfl, nofun, nofun⟩

/-- A lifetime may be as long as the calendar, to the nanosecond: the refresh token is then good until its
last one, and one nanosecond more is refused. -/
theorem lifetimes_exact_or_refused_last :
    (∃ tokens : IssuedTokens, ((memoryService ⟨[], "issuer"⟩ ⟨lastLifetime 0, lastLifetime 0,
        .ofMillis 1⟩).login "Ada@example.com" "correct horse" ⟨none, none⟩ hosting).1 = .ok tokens
      ∧ tokens.refreshExpiresAt = .last ∧ tokens.accessTokenSeconds = 8210266876799)
    ∧ ((⟨⟨[], "issuer"⟩, ⟨lastLifetime 1, lastLifetime 0, .ofMillis 1⟩,
        Relational.defaultLockTimeout⟩ : TableService).service.login "Ada@example.com" "correct horse"
          ⟨none, none⟩ hostingTables).1 = .error (.refused .internal) := by
  constructor
  · have hends : AuthSettings.Ends ⟨lastLifetime 0, lastLifetime 0, .ofMillis 1⟩
        hosting.world.now := ⟨by decide, by decide⟩
    have h := (lifetimes_exact_or_refused.2 ⟨[], "issuer"⟩
      ⟨lastLifetime 0, lastLifetime 0, .ofMillis 1⟩).decided hosting "Ada@example.com" "correct horse"
        ⟨none, none⟩ (by decide) hosting_welcomes
    obtain ⟨tokens, htokens, -, hexact⟩ := (h.mono (fun _ _ h => h)
      fun _ _ h => absurd hends h.1).exists_ok
    refine ⟨tokens, htokens, ?_, ?_⟩
    · have hend := hexact.refreshEnd
      exact congrArg Instant.mk hend
    · have hleast : (tokens.accessTokenSeconds : Int) * 1000000000 ≤ 8210266876799999999999 :=
        hexact.accessSeconds.1
      have hmost : (8210266876799999999999 : Int) < (tokens.accessTokenSeconds + 1) * 1000000000 :=
        hexact.accessSeconds.2
      omega
  · have hends : ¬AuthSettings.Ends ⟨lastLifetime 1, lastLifetime 0, .ofMillis 1⟩
        hostingTables.world.now := fun h => absurd h.access (by decide)
    have h := (lifetimes_exact_or_refused.1 ⟨⟨[], "issuer"⟩,
      ⟨lastLifetime 1, lastLifetime 0, .ofMillis 1⟩, Relational.defaultLockTimeout⟩).decided
        hostingTables "Ada@example.com" "correct horse" ⟨none, none⟩ (by decide)
        hostingTables_welcomes
    refine (Ensures.failed (P := fun _ => True) (h.mono ?_ ?_)).1
    · exact fun _ _ h => hends h.1
    · exact fun _ _ h => ⟨h.2, trivial⟩

end SessionAuth
