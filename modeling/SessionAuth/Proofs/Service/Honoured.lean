import SessionAuth.Proofs.Account.Email
import SessionAuth.Proofs.Service.Issued
import SessionAuth.Proofs.Session.Secret
import SessionAuth.Proofs.Store.Answer
import SessionAuth.Proofs.Text.Spelling
import SessionAuth.Proofs.Time.Instant
import SessionAuth.Proofs.Token.Signer

/-!
Tokens that are handed out are honoured.

What an access token is worth is decided by the token and the clock: it names its user until the second
of its expiry, whatever has happened to the service since. What a refresh token is worth is decided by
its session, and the session is found where it was added: it stays in its place, and no session ahead
of it has its digest. So as long as it is not revoked, the token is good up to the expiry that is
stored, and refused as an invalid one from then on.

Three clocks meet in this: expiries are worked out in nanoseconds, stored in microseconds, and signed in
seconds.
-/

set_option autoImplicit false

namespace SessionAuth

open Database (Condition Ready SessionRow UserRow Tables)

variable {σ τ : Type}

/-! ## Texts without blanks -/

theorem TokenSigner.visible_of_mem_encode {s : TokenSigner} {claims : Claims} {c : Char}
    (h : c ∈ (s.encode claims).toList) : Text.isBlank c = false := by
  have hdot : Text.isBlank '.' = false := by decide
  unfold encode at h
  rw [String.toList_ofList] at h
  simp only [List.mem_append, List.mem_cons] at h
  rcases h with (h | rfl | h) | rfl | h
  · exact Base64.visible_of_mem_encode h
  · exact hdot
  · exact Base64.visible_of_mem_encode h
  · exact hdot
  · exact Base64.visible_of_mem_encode h

/-- **A text without blanks is found in what surrounds it**, if that is white space only. -/
theorem Service.required_padded {raw value : String} (field : String) (hne : value.toList ≠ [])
    (hvisible : ∀ c ∈ value.toList, Text.isBlank c = false) (hraw : Text.Padded raw value) :
    Service.required raw field = .ok value := by
  have htrim := hraw.trim hvisible
  have hnonempty : (Text.trim raw.toList).isEmpty = false := by
    rw [htrim, List.isEmpty_eq_false_iff]
    exact hne
  rw [required_text field hnonempty, htrim, String.ofList_toList]

/-- A secret that was drawn is found in what a client makes of it, with white space around it or
without. -/
theorem RefreshSecret.required_padded {raw : String} {b : Bytes} (field : String)
    (hb : b.length = byteCount) (hraw : Text.Padded raw (ofBytes b)) :
    Service.required raw field = .ok (ofBytes b) := by
  refine Service.required_padded field ?_ (fun c => visible_of_mem) hraw
  intro hnil
  have hlength := length_ofBytes hb
  rw [← String.length_toList, hnil] at hlength
  cases hlength

theorem RefreshSecret.presents_ofBytes {b : Bytes} (hb : b.length = byteCount) :
    Presents (ofBytes b) (ofBytes b) := required_padded _ hb (.refl _)

/-! ## Access tokens -/

namespace Service

variable {s : Service σ} {st : ServiceState σ} {tokens : IssuedTokens} {user : User} {now : Instant}
  {accessEnd : Instant}

/-- **An access token names its user up to the second of its expiry**, and is refused from then on. -/
theorem validate_issued (h : tokens.AreFor s now user accessEnd)
    (hclock : Instant.epoch ≤ st.world.now) :
    Ensures (s.validate tokens.accessToken) st
      (fun identity _ => st.world.now.seconds < accessEnd.seconds
        ∧ identity = ⟨tokens.userId.toText, user.email.text⟩)
      (fun e _ => ¬st.world.now.seconds < accessEnd.seconds ∧ e = .refused .invalidToken) := by
  have hpresents : required tokens.accessToken "access_token" = .ok tokens.accessToken := by
    rw [h.accessToken]
    refine required_padded _ ?_ (fun c => TokenSigner.visible_of_mem_encode) (.refl _)
    unfold TokenSigner.encode
    rw [String.toList_ofList]
    simp
  refine Ensures.bind (requireArgument_presents hpresents) ?_
  rintro _ st₀ ⟨rfl, rfl⟩
  refine Ensures.get_bind ?_
  obtain ⟨hissued, hexpires⟩ := Instant.seconds_of_after? h.accessEnd_eq
  have hparse : s.signer.parse st₀.world.now tokens.accessToken
      = s.signer.accept st₀.world.now
          (.forUser user.id.toText user.email.text s.signer.issuer now accessEnd)
          (.ofClaims (.forUser user.id.toText user.email.text s.signer.issuer now accessEnd)) := by
    rw [h.accessToken]
    exact TokenSigner.parse_encode s.signer.secret s.signer.issuer s.signer.issuer _ _ hissued hexpires
  -- the signature is right, and what is left to check is the time
  rw [hparse]
  by_cases hfresh : st₀.world.now.seconds < accessEnd.seconds
  · rw [TokenSigner.accept_ok hclock rfl hfresh, h.userId]
    exact ⟨hfresh, rfl⟩
  · obtain ⟨flaw, hflaw, hne⟩ := TokenSigner.accept_error
      (c := .forUser user.id.toText user.email.text s.signer.issuer now accessEnd) hclock
      fun h => hfresh h.2
    rw [hflaw]
    cases flaw with
    | clock => exact absurd rfl hne
    | _ => exact Serve.report_bind fun _ _ => ⟨hfresh, rfl⟩

/-! ## Honouring -/

variable {change : τ → σ → σ}

/-- **An access token is honoured** in a state: on every occasion with a clock that reads 1970 or later, it
is accepted up to a second and names its user, and from that second on it is refused. -/
def HonoursAccess (s : Service σ) (change : τ → σ → σ) (st : ServiceState σ) (token : String)
    (identity : TokenIdentity) (accessEnd : Instant) : Prop :=
  ∀ o : Occasion τ, o.request = .validate token → Instant.epoch ≤ o.now →
    (s.visit change o st).1
      = if o.now.seconds < accessEnd.seconds then ⟨.validate token, .ok identity⟩
        else ⟨.validate token, .error (.refused .invalidToken)⟩

/-- **A refresh token is honoured** in a state: on every fair occasion, it is exchanged before an instant,
and refused as an invalid one from then on. -/
def HonoursRefresh (s : Service σ) (change : τ → σ → σ) (fair : Occasion τ → Prop)
    (st : ServiceState σ) (token : String) (refreshEnd : Instant) : Prop :=
  ∀ (o : Occasion τ) (client : Client), o.request = .refresh token client → fair o →
    if o.now < refreshEnd then
      ∃ tokens, (s.visit change o st).1 = ⟨.refresh token client, .ok tokens⟩
    else (s.visit change o st).1
      = ⟨.refresh token client, .error (.refused .invalidRefreshToken)⟩

/-- An access token is honoured in every state. -/
theorem honoursAccess (h : tokens.AreFor s now user accessEnd) (st : ServiceState σ) :
    s.HonoursAccess change st tokens.accessToken ⟨tokens.userId.toText, user.email.text⟩
      accessEnd := by
  intro o hrequest hclock
  have hserved : Ensures (s.validate tokens.accessToken) (st.meet change o) _ _ :=
    validate_issued h hclock
  refine visit_ending (P := fun x _ => x
    = if o.now.seconds < accessEnd.seconds then ⟨.validate tokens.accessToken, .ok _⟩
      else ⟨.validate tokens.accessToken, .error (.refused .invalidToken)⟩) hrequest
    (hserved.mono ?_ ?_)
  · rintro _ _ ⟨hfresh, rfl⟩
    exact (if_pos hfresh).symm
  · rintro _ _ ⟨hover, rfl⟩
    exact (if_neg hover).symm

/-- A refresh token is honoured where refreshes succeed before an instant and are refused from then on. -/
theorem honoursRefresh {fair : Occasion τ → Prop} {token : String} {refreshEnd : Instant}
    (haccepted : ∀ (o : Occasion τ) (client : Client), fair o → o.now < refreshEnd →
      Ensures (s.refresh token client) (st.meet change o) (fun _ _ => True) (fun _ _ => False))
    (hrefused : ∀ (o : Occasion τ) (client : Client), fair o → ¬o.now < refreshEnd →
      Ensures (s.refresh token client) (st.meet change o) (fun _ _ => False)
        (fun e _ => e = .refused .invalidRefreshToken)) :
    s.HonoursRefresh change fair st token refreshEnd := by
  intro o client hrequest ho
  split
  · rename_i hearly
    obtain ⟨tokens, htokens, -⟩ := visit_exists_ok (q := .refresh token client) hrequest
      (haccepted o client ho hearly)
    exact ⟨tokens, htokens⟩
  · rename_i hlate
    refine visit_ending (P := fun x _ => x
      = ⟨.refresh token client, .error (.refused .invalidRefreshToken)⟩) hrequest
      ((hrefused o client ho hlate).mono (fun _ _ h => h.elim) ?_)
    rintro _ _ rfl
    rfl

end Service

/-! ## Finding the session again -/

/-- The entry that was added is the first one with its key, whatever has been added since. -/
theorem Appends.find? {ρ κ : Type} [BEq κ] [LawfulBEq κ] {P : ρ → ρ → Prop} {key : ρ → κ}
    {rows behind later : List ρ} {row row' : ρ} (h : Appends P rows behind row)
    (hkey : ∀ a b, P a b → key b = key a) (hlater : Extends P behind later)
    (hnew : ∀ r ∈ rows, key r ≠ key row) (hrow' : later[rows.length]? = some row') :
    P row row' ∧ later.find? (key · == key row) = some row' := by
  have hpersists : P row row' := by
    obtain ⟨r, hr, hp⟩ := hlater rows.length row h.last
    rw [hrow'] at hr
    rwa [Option.some.inj hr]
  obtain ⟨hlength, hat⟩ := List.getElem?_eq_some_iff.mp hrow'
  refine ⟨hpersists, List.find?_eq_some_iff_getElem.mpr ⟨?_, rows.length, hlength, hat, ?_⟩⟩
  · rw [hkey row row' hpersists]
    exact beq_self_eq_true _
  · -- the entries ahead of it are those from before, with the keys they had
    intro i hi
    obtain ⟨r, hr, hp⟩ := h.others i rows[i] (List.getElem?_eq_getElem hi)
    obtain ⟨r', hr', hp'⟩ := hlater i r hr
    obtain ⟨_, heq⟩ := List.getElem?_eq_some_iff.mp hr'
    rw [heq, hkey r r' hp', hkey _ r hp, Bool.not_eq_true', beq_eq_false_iff_ne]
    exact hnew _ (List.getElem_mem hi)

/-- What is not revoked is active up to its expiry. -/
theorem SessionState.at_open (expiresAt now : Instant) :
    SessionState.at expiresAt none now = if now < expiresAt then .active else .expired := by
  unfold SessionState.at
  by_cases hearly : now < expiresAt
  · have hnot : ¬expiresAt ≤ now := Int.not_le.mpr hearly
    rw [if_neg (by decide), if_neg hnot, if_pos hearly]
  · have hle : expiresAt ≤ now := Int.not_lt.mp hearly
    rw [if_neg (by decide), if_pos hle, if_neg hearly]

/-! ## The tables -/

/-- The owner of a session can be read. -/
def Database.Tables.Reads (t : Tables) (u : UserId) : Prop :=
  ∃ row user, t.users.find? (·.id == u) = some row ∧ Relational.loadRow row = .ok user

/-- What the tables answer to the rotation of an open session: it depends on the clock alone, if the
identifier is free and the owner can be read. -/
theorem Relational.rotationAnswer_open {t : Tables} {now : Instant} {secret : String}
    {id : SessionId} {row : SessionRow}
    (hfind : t.sessions.find? (·.digest == RefreshSecret.digest secret) = some row)
    (hopen : row.revokedAt = none) (hid : ∀ r ∈ t.sessions, r.id ≠ id)
    (howner : t.Reads row.userId) :
    (now < row.expiresAt → ∃ r, rotationAnswer t now secret id = .ok r)
      ∧ (¬now < row.expiresAt → rotationAnswer t now secret id = .error .expired) := by
  have hfree : t.sessions.any (·.id == id) = false := by simpa using hid
  obtain ⟨ownerRow, user, husers, hload⟩ := howner
  unfold rotationAnswer
  rw [hfind]
  dsimp only
  unfold replacementAnswer ownerAnswer
  rw [hopen, SessionState.at_open, hfree, husers]
  constructor
  · intro hearly
    simp only [if_pos hearly, hload]
    exact ⟨⟨id, user⟩, rfl⟩
  · intro hlate
    simp only [if_neg hlate]

/-- On a fair occasion, a new secret and a free identifier are drawn, and the rotation is answered as the
tables say. -/
theorem TableService.rotation_answered (s : TableService) {o : Occasion Condition}
    {st : ServiceState Database} {secret : String} (ho : o.AdmitsLogin s.settings st.tables)
    (howner : ∀ old, st.tables.sessions.find? (·.digest == RefreshSecret.digest secret) = some old →
      ∃ u ∈ st.tables.users, u.id = old.userId) :
    ∃ newSecret rest id, RefreshSecret.draw? o.random = some (newSecret, rest)
      ∧ (∀ r ∈ st.tables.sessions, r.id ≠ id)
      ∧ ∀ expires client, Ensures (s.service.store.rotateSession secret newSecret expires client)
          { (st.meet Database.meet o).world with random := rest }
          (fun r w => w.now = o.now
            ∧ Relational.rotationAnswer st.tables o.now secret id = .ok r)
          (fun e _ => ∃ fault, Relational.rotationAnswer st.tables o.now secret id = .error fault
            ∧ e = .refused fault) := by
  obtain ⟨newSecret, rest, id, rest', hdraw, hdrawId, hnewId, hnewDigest⟩ := ho.draws
  have hfair : (Database.meet o.condition st.world.store).Fair :=
    Database.meet_fair ho.answers ho.undisturbed
  refine ⟨newSecret, rest, ⟨id⟩, hdraw, hnewId, fun expires client => ?_⟩
  refine ((Relational.rotateSession_ensures (w := { (st.meet Database.meet o).world with random := rest })
    rfl hfair.faithful).and (Relational.rotateSession_owned (w := { (st.meet Database.meet o).world with
      random := rest }) hfair howner hnewDigest fun _ _ _ => hdrawId)).mono ?_ fun _ _ h => h.2
  rintro r w ⟨⟨⟨-, hnow⟩, -⟩, hanswer⟩
  exact ⟨hnow, hanswer⟩

/-- **A refresh token is honoured up to the expiry that is stored**, as long as its session is not revoked
and its owner can be read. What a login asks of its circumstances, a refresh asks as well. -/
theorem TableService.honoursRefresh (s : TableService) {st : ServiceState Database} {secret : String}
    {row : SessionRow} (hsecret : Presents secret secret)
    (hfind : st.tables.sessions.find? (·.digest == RefreshSecret.digest secret) = some row)
    (hopen : row.revokedAt = none) (howner : st.tables.Reads row.userId) :
    s.service.HonoursRefresh Database.meet (fun o => o.AdmitsLogin s.settings st.tables) st secret
      row.expiresAt := by
  have hrow : ∀ old, st.tables.sessions.find? (·.digest == RefreshSecret.digest secret) = some old →
      ∃ u ∈ st.tables.users, u.id = old.userId := by
    intro old hold
    obtain rfl := Option.some.inj (hfind.symm.trans hold)
    obtain ⟨ownerRow, -, husers, -⟩ := howner
    exact ⟨ownerRow, List.mem_of_find?_eq_some husers, Database.eq_of_find? husers⟩
  refine Service.honoursRefresh (fun o client ho hearly => ?_) fun o client ho hlate => ?_
  · obtain ⟨newSecret, rest, id, hdraw, hid, hrotate⟩ := s.rotation_answered ho hrow
    obtain ⟨r, hr⟩ := (Relational.rotationAnswer_open hfind hopen hid howner).1 hearly
    refine Service.refresh_accepted hsecret hdraw ho.dated.refresh ho.dated.access fun expires => ?_
    refine (hrotate expires client).mono (fun _ _ h => h.1) ?_
    rintro _ _ ⟨fault, hfault, -⟩
    rw [hr] at hfault
    cases hfault
  · obtain ⟨newSecret, rest, id, hdraw, hid, hrotate⟩ := s.rotation_answered ho hrow
    have hexpired := (Relational.rotationAnswer_open hfind hopen hid howner).2 hlate
    refine Service.refresh_rejected hsecret hdraw ho.dated.refresh fun expires => ?_
    refine (hrotate expires client).mono ?_ ?_
    · rintro _ _ ⟨-, hr⟩
      rw [hexpired] at hr
      cases hr
    · rintro _ _ ⟨fault, hfault, rfl⟩
      rw [hexpired] at hfault
      obtain rfl := Except.error.inj hfault
      exact ⟨.expired, rfl, rfl⟩

/-! ## The store in memory -/

/-- **Nothing stands in the way of a refresh** in memory. -/
structure Occasion.AdmitsRefreshInMemory (settings : AuthSettings) (o : Occasion Misbehaviours) :
    Prop where
  rotates : o.condition.rotateSession = none
  random : o.random.canRead RefreshSecret.byteCount = true
  dated : o.Dated settings

/-- In memory, a refresh token is honoured up to the expiry that was given. -/
theorem MemoryStore.honoursRefresh (signer : TokenSigner) (settings : AuthSettings)
    {st : ServiceState MemoryStore} {secret : String} {a : Session} {user : User}
    (hsecret : Presents secret secret) (hfind : st.world.store.sessionOf? secret = some a)
    (hopen : a.revokedAt = none)
    (howner : st.world.store.users.find? (·.id == a.userId) = some user) :
    (memoryService signer settings).HonoursRefresh meet (fun o => o.AdmitsRefreshInMemory settings) st
      secret a.expiresAt := by
  have hstate : ∀ now, a.state now = if now < a.expiresAt then .active else .expired := by
    intro now
    rw [Session.state, hopen, SessionState.at_open]
  refine Service.honoursRefresh (fun o client ho hearly => ?_) fun o client ho hlate => ?_
  · obtain ⟨⟨newSecret, rest⟩, hdraw⟩ :=
      Option.ne_none_iff_exists'.mp (RefreshSecret.draw?_ne_none ho.random)
    have hactive : a.state o.now = .active := by
      rw [hstate, if_pos hearly]
    refine Service.refresh_accepted hsecret hdraw ho.dated.refresh ho.dated.access fun expires => ?_
    exact (rotateSession_ensures.and (rotateSession_active
      (w := { (st.meet meet o).world with random := rest }) ho.rotates hfind hactive howner)).mono
      (fun _ _ h => h.1.1) fun _ _ h => h.2
  · obtain ⟨⟨newSecret, rest⟩, hdraw⟩ :=
      Option.ne_none_iff_exists'.mp (RefreshSecret.draw?_ne_none ho.random)
    have hexpired : a.state o.now = .expired := by
      rw [hstate, if_neg hlate]
    refine Service.refresh_rejected hsecret hdraw ho.dated.refresh fun expires => ?_
    refine (rotateSession_expired (w := { (st.meet meet o).world with random := rest }) ho.rotates
      hfind hexpired).mono (fun _ _ h => h) ?_
    rintro _ _ rfl
    exact ⟨.expired, rfl, rfl⟩

/-! ## Both stores -/

/-- **What is handed out matches what is stored, and is honoured**, on either store, for every login and
every refresh that is answered with tokens:

* the tokens are those of a user whom the store held, put together at the time of the request;
* one session has been added behind the others, for this user, with the digest of the refresh token, its
  expiry and the client of the request; on the tables the expiry is kept in microseconds;
* whatever is asked of the service then, and in whichever circumstances, the access token names the user
  up to the second of its expiry and is refused from then on;
* and as long as the session is not revoked and its owner can be read, the refresh token is exchanged up
  to the stored expiry and refused from then on.

The tables keep a secret from being stored twice. In memory nothing does, and it has to be new. -/
theorem tokens_match_sessions :
    (∀ (s : TableService) (o : Occasion Condition) (st : ServiceState Database)
        (tokens : IssuedTokens), (s.visit o st).1.issued? = some tokens →
      ∃ client user accessEnd row, o.request.client? = some client ∧ st.tables.Holds user
        ∧ tokens.AreFor s.service o.now user accessEnd
        ∧ Appends SessionRow.Persists st.tables.sessions (s.visit o st).2.tables.sessions row
        ∧ row.Stores tokens.userId tokens.refreshToken tokens.refreshExpiresAt client
        ∧ ∀ l : List (Occasion Condition),
          let later := (s.run l (s.visit o st).2).2
          s.service.HonoursAccess Database.meet later tokens.accessToken
              ⟨tokens.userId.toText, user.email.text⟩ accessEnd
            ∧ ∀ row', later.tables.sessions[st.tables.sessions.length]? = some row' →
              row'.revokedAt = none → later.tables.Reads tokens.userId →
              s.service.HonoursRefresh Database.meet
                (fun o' => o'.AdmitsLogin s.settings later.tables) later tokens.refreshToken
                row.expiresAt)
    ∧ ∀ (signer : TokenSigner) (settings : AuthSettings) (o : Occasion Misbehaviours)
        (st : ServiceState MemoryStore) (tokens : IssuedTokens),
      let s := memoryService signer settings
      (s.visit MemoryStore.meet o st).1.issued? = some tokens →
      (∀ a ∈ st.world.store.sessions, a.digest ≠ RefreshSecret.digest tokens.refreshToken) →
      ∃ client user accessEnd a, o.request.client? = some client ∧ user ∈ st.world.store.users
        ∧ tokens.AreFor s o.now user accessEnd
        ∧ Appends Session.Persists st.world.store.sessions
            (s.visit MemoryStore.meet o st).2.world.store.sessions a
        ∧ a.Stores tokens.userId tokens.refreshToken tokens.refreshExpiresAt client
        ∧ ∀ l : List (Occasion Misbehaviours),
          let later := (s.run MemoryStore.meet l (s.visit MemoryStore.meet o st).2).2
          s.HonoursAccess MemoryStore.meet later tokens.accessToken
              ⟨tokens.userId.toText, user.email.text⟩ accessEnd
            ∧ ∀ a', later.world.store.sessions[st.world.store.sessions.length]? = some a' →
              a'.revokedAt = none → (∃ owner ∈ later.world.store.users, owner.id = tokens.userId) →
              s.HonoursRefresh MemoryStore.meet (fun o' => o'.AdmitsRefreshInMemory settings) later
                tokens.refreshToken a.expiresAt := by
  constructor
  · intro s o st tokens htokens
    obtain ⟨client, user, accessEnd, hclient, huser, hfor, row, happends, hstores, hnew⟩ :=
      Store.Records.visit (s := s.service) (Relational.records s.lockTimeout) o st htokens
    refine ⟨client, user, accessEnd, row, hclient, huser, hfor, happends, hstores, fun l => ?_⟩
    refine ⟨Service.honoursAccess hfor _, fun row' hrow' hopen howner => ?_⟩
    have hlater : (s.visit o st).2.tables.AppendOnly (s.run l (s.visit o st).2).2.tables :=
      TableService.run_moves Tables.AppendOnly.statements l _
    rw [← hstores.digest] at hnew
    -- the token leads to the row that was added for it, which has kept its expiry and its owner
    obtain ⟨hpersists, hfind⟩ := happends.find? (fun _ _ h => h.digest) hlater.sessions hnew hrow'
    obtain ⟨b, hb, hsecret⟩ := hfor.refreshToken
    rw [hstores.digest] at hfind
    rw [← hpersists.expiresAt]
    rw [← hstores.userId, ← hpersists.userId] at howner
    rw [hsecret] at hfind ⊢
    exact s.honoursRefresh (RefreshSecret.presents_ofBytes hb) hfind hopen howner
  · intro signer settings o st tokens s htokens hnew
    obtain ⟨client, user, accessEnd, hclient, huser, hfor, a, happends, hstores⟩ :=
      Store.Records.visit (s := s) MemoryStore.records o st htokens
    refine ⟨client, user, accessEnd, a, hclient, huser, hfor, happends, hstores, fun l => ?_⟩
    refine ⟨Service.honoursAccess hfor _, fun a' ha' hopen howner => ?_⟩
    have hmet : ∀ (c : Misbehaviours) (m : MemoryStore), m.AppendOnly (MemoryStore.meet c m) :=
      fun _ m => MemoryStore.appendOnly_refl m
    have hlater : (s.visit MemoryStore.meet o st).2.world.store.AppendOnly
        (s.run MemoryStore.meet l (s.visit MemoryStore.meet o st).2).2.world.store :=
      (Service.run_moves (s := s) MemoryStore.appendOnly hmet l _).store
    rw [← hstores.digest] at hnew
    obtain ⟨hpersists, hfind⟩ := happends.find? (fun _ _ h => h.digest) hlater hnew ha'
    obtain ⟨b, hb, hsecret⟩ := hfor.refreshToken
    obtain ⟨owner, hmem, howner⟩ := howner
    rw [hstores.digest] at hfind
    rw [← hpersists.expiresAt]
    rw [← hstores.userId, ← hpersists.userId] at howner
    rw [hsecret] at hfind ⊢
    have hthere : (List.find? (fun u : User => u.id == a'.userId) _).isSome = true :=
      List.find?_isSome.mpr ⟨owner, hmem, beq_iff_eq.mpr howner⟩
    obtain ⟨found, hfound⟩ := Option.isSome_iff_exists.mp hthere
    exact MemoryStore.honoursRefresh signer settings (RefreshSecret.presents_ofBytes hb) hfind hopen
      hfound

/-! ### A session that is renewed -/

/-- Somebody comes back with a refresh token. -/
def renewing (secret : String) (condition : τ) : Occasion τ :=
  ⟨.refresh secret ⟨some "agent", none⟩, .ofSeconds 30, ⟨.ofSeed 2, none⟩, condition⟩

/-- A service on the tables of a household. -/
def atHome : ServiceState Database := ⟨Relational.roomy, lightPool, none⟩

/-- The refresh is answered with tokens for the tenant. -/
theorem atHome_issued : (loneService.visit (renewing "old" {}) atHome).1.issued?.map (·.userId)
    = some Relational.tenantRow.id := by decide +kernel

/-- Behind the refresh, the owner of the new session can be read. -/
theorem atHome_reads {tokens : IssuedTokens}
    (htokens : (loneService.visit (renewing "old" {}) atHome).1.issued? = some tokens) :
    (loneService.visit (renewing "old" {}) atHome).2.tables.Reads tokens.userId := by
  have howner := atHome_issued
  have husers : (loneService.visit (renewing "old" {}) atHome).2.tables.users
      = [Relational.tenantRow] := by decide +kernel
  have hload : Relational.loadRow Relational.tenantRow
      = .ok ⟨Relational.tenantRow.id, ⟨"a@example.com"⟩, "", none, .epoch, .epoch⟩ := by
    decide +kernel
  rw [htokens] at howner
  have htenant : tokens.userId = Relational.tenantRow.id := Option.some.inj howner
  rw [htenant]
  refine ⟨Relational.tenantRow, _, ?_, hload⟩
  rw [husers]
  exact List.find?_cons_of_pos (beq_self_eq_true _)

theorem tokens_match_sessions_renewed :
    (∃ tokens row, (loneService.visit (renewing "old" {}) atHome).1.issued? = some tokens
      ∧ Appends SessionRow.Persists atHome.tables.sessions
          (loneService.visit (renewing "old" {}) atHome).2.tables.sessions row
      ∧ row.Stores tokens.userId tokens.refreshToken tokens.refreshExpiresAt ⟨some "agent", none⟩
      ∧ loneService.service.HonoursRefresh Database.meet
          (fun o => o.AdmitsLogin loneService.settings
            (loneService.visit (renewing "old" {}) atHome).2.tables)
          (loneService.visit (renewing "old" {}) atHome).2 tokens.refreshToken row.expiresAt)
    ∧ ∃ tokens a, ((memoryService ⟨[], "issuer"⟩ {}).visit MemoryStore.meet (renewing "abc" {})
          beforeLoss).1.issued? = some tokens
      ∧ (∀ a ∈ beforeLoss.world.store.sessions,
          a.digest ≠ RefreshSecret.digest tokens.refreshToken)
      ∧ Appends Session.Persists beforeLoss.world.store.sessions
          ((memoryService ⟨[], "issuer"⟩ {}).visit MemoryStore.meet (renewing "abc" {})
            beforeLoss).2.world.store.sessions a
      ∧ a.Stores tokens.userId tokens.refreshToken tokens.refreshExpiresAt
          ⟨some "agent", none⟩ := by
  constructor
  · obtain ⟨tokens, htokens, -⟩ := Option.map_eq_some_iff.mp atHome_issued
    obtain ⟨_, _, _, row, ⟨⟩, -, -, happends, hstores, hlater⟩ :=
      tokens_match_sessions.1 loneService (renewing "old" {}) atHome tokens htokens
    exact ⟨tokens, row, htokens, happends, hstores,
      (hlater []).2 row happends.last hstores.revokedAt (atHome_reads htokens)⟩
  · have hissued : ((memoryService ⟨[], "issuer"⟩ {}).visit MemoryStore.meet (renewing "abc" {})
        beforeLoss).1.issued?.isSome = true := by decide +kernel
    have hdigest : ((memoryService ⟨[], "issuer"⟩ {}).visit MemoryStore.meet (renewing "abc" {})
        beforeLoss).1.issued?.all (fun tokens => RefreshSecret.digest "abc"
          != RefreshSecret.digest tokens.refreshToken) = true := by decide +kernel
    obtain ⟨tokens, htokens⟩ := Option.isSome_iff_exists.mp hissued
    have hnew : ∀ a ∈ beforeLoss.world.store.sessions,
        a.digest ≠ RefreshSecret.digest tokens.refreshToken := by
      rw [htokens, Option.all_some, bne_iff_ne] at hdigest
      unfold beforeLoss
      intro a ha
      rw [List.mem_singleton.mp ha]
      exact hdigest
    obtain ⟨_, _, _, a, ⟨⟩, -, -, happends, hstores, -⟩ :=
      tokens_match_sessions.2 ⟨[], "issuer"⟩ {} (renewing "abc" {}) beforeLoss tokens htokens hnew
    exact ⟨tokens, a, htokens, hnew, happends, hstores⟩

end SessionAuth
