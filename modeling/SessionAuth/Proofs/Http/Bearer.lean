import SessionAuth.Proofs.Http.Respond
import SessionAuth.Proofs.Service.Honoured
import SessionAuth.Proofs.Text.Blank
import SessionAuth.Proofs.Uuid

/-!
Who a request comes from.

`Api.Identifies` says it without a word about how the router goes about it: the first authorization header
is plain text and names a token, the service says whom the token is for, and this is the identifier of a
user. The router takes the white space around the token away before it asks the service, and so does the
service; that this makes no difference is where the two ways of putting it meet (`validate_trimmed`).

Either somebody is identified and nothing has happened, or nobody is, and the request is refused without
a call of the store (`caller_identified`, `caller_unidentified`).
-/

set_option autoImplicit false

namespace SessionAuth

variable {σ τ : Type} {st : ServiceState σ}

/-! ## Looking at an access token -/

/-- **Nothing but reports**: the service is as it was, except for the events. -/
def ServiceState.Reports (st st' : ServiceState σ) : Prop :=
  ∃ events, st' = { st with world := { st.world with events } }

theorem ServiceState.Reports.refl (st : ServiceState σ) : st.Reports st := ⟨st.world.events, rfl⟩

theorem Serve.report_reports {ε β : Type} {e : Event} {f : Unit → Serve σ ε β}
    {R : β → ServiceState σ → Prop} {F : Failure ε → ServiceState σ → Prop}
    (h : ∀ st', st.Reports st' → Ensures (f ()) st' R F) :
    Ensures (report e >>= f) st R F := h _ ⟨_, rfl⟩

namespace Service

variable {s : Service σ} {token : String}

/-- A token is accepted without a trace. -/
theorem validate_unchanged :
    Ensures (s.validate token) st (fun _ st' => st' = st) (fun _ _ => True) := by
  refine Ensures.bind_mono requireArgument_ensures (fun _ _ _ => trivial) ?_
  rintro text st₀ ⟨rfl, -⟩
  refine Ensures.get_bind ?_
  split
  · rfl
  · trivial
  · exact Serve.report_bind fun _ _ => trivial

/-- From 1970 on, a token that is not accepted is refused, and no more than reported. -/
theorem validate_reports (hclock : Instant.epoch ≤ st.world.now) :
    Ensures (s.validate token) st (fun _ _ => True)
      (fun e st' => (∃ fault, e = .refused fault) ∧ st.Reports st') := by
  have hargument : Ensures (requireArgument token "access_token" : Serve σ AuthFault String) st
      (fun _ st' => st' = st) (fun e st' => (∃ fault, e = .refused fault) ∧ st.Reports st') := by
    unfold requireArgument
    split
    · rfl
    · exact ⟨⟨_, rfl⟩, .refl st⟩
  refine Ensures.bind hargument ?_
  rintro text st₀ rfl
  refine Ensures.get_bind ?_
  split
  · trivial
  · -- the only way to panic is a clock before 1970
    have hpanic : s.signer.parse st₀.world.now text = .error .clock := ‹_›
    exact absurd hpanic (TokenSigner.parse_ne_clock hclock)
  · exact Serve.report_reports fun _ h => ⟨⟨_, rfl⟩, h⟩

/-- The white space around an argument has been taken away already. -/
theorem required_trimmed (value field : String) :
    required (String.ofList (Text.trim value.toList)) field = required value field := by
  unfold required
  rw [String.toList_ofList, Text.trim_trim]

/-- **White space around a token makes no difference.** -/
theorem validate_trimmed (token : String) :
    s.validate (String.ofList (Text.trim token.toList)) = s.validate token := by
  unfold validate requireArgument
  rw [required_trimmed]

/-- A token of white space is none. -/
theorem validate_blank {identity : TokenIdentity} (hblank : (Text.trim token.toList).isEmpty = true) :
    (s.validate token st).1 ≠ .ok identity := by
  unfold validate requireArgument
  rw [required_blank hblank]
  exact nofun

end Service

namespace Http

variable {api : Api σ} {r : Request} {token : String} {u : UserId}

/-! ## Headers -/

/-- **A request bears a token**: its first authorization header is plain text, and is the token behind the
name of the scheme. -/
def Request.Bears (r : Request) (token : String) : Prop :=
  ∃ value, r.header? "authorization" = some value ∧ plainText? value = some ("Bearer " ++ token)

/-- A request bears one token at most. -/
theorem Request.Bears.unique {token' : String} (h : r.Bears token) (h' : r.Bears token') :
    token = token' := by
  obtain ⟨value, hvalue, htext⟩ := h
  obtain ⟨value', hvalue', htext'⟩ := h'
  obtain rfl : value = value' := Option.some.inj (hvalue.symm.trans hvalue')
  have heq : "Bearer " ++ token = "Bearer " ++ token' := Option.some.inj (htext.symm.trans htext')
  have hlist := congrArg String.toList heq
  rw [String.toList_append, String.toList_append, List.append_cancel_left_eq] at hlist
  exact String.toList_inj.mp hlist

/-- What is said to a request that nobody can be identified by. -/
def bearerRefusals : List String :=
  ["missing authorization header", "invalid authorization header",
    "expected authorization header: Bearer <token>", "invalid token"]

/-- The router takes the token without the white space around it, if anything is left. -/
theorem bearerToken_of_bears (h : r.Bears token) :
    bearerToken r = if (Text.trim token.toList).isEmpty = true
      then .error "expected authorization header: Bearer <token>"
      else .ok (String.ofList (Text.trim token.toList)) := by
  obtain ⟨value, hvalue, htext⟩ := h
  have hchars : ("Bearer " ++ token).toList = "Bearer ".toList ++ token.toList :=
    String.toList_append
  have hseven : "Bearer ".toList.length = 7 := by decide
  unfold bearerToken
  rw [hvalue]
  dsimp only
  rw [htext]
  dsimp only
  rw [hchars, List.take_left' hseven, List.drop_left' hseven]
  by_cases hblank : (Text.trim token.toList).isEmpty = true
  · simp only [hblank, Bool.not_true, Bool.false_eq_true, and_false, if_false, if_true]
  · rw [Bool.not_eq_true] at hblank
    simp only [hblank, Bool.not_false, and_self, Bool.false_eq_true, if_false, if_true]

/-- A request without a token is told what is wrong with its header. -/
theorem bearerToken_of_not_bears (h : ∀ token, ¬r.Bears token) :
    ∃ message ∈ bearerRefusals, bearerToken r = .error message := by
  have hmissing : "missing authorization header" ∈ bearerRefusals := by decide
  have hgarbled : "invalid authorization header" ∈ bearerRefusals := by decide
  have hscheme : "expected authorization header: Bearer <token>" ∈ bearerRefusals := by decide
  unfold bearerToken
  cases hvalue : r.header? "authorization" with
  | none => exact ⟨_, hmissing, rfl⟩
  | some value =>
    cases htext : plainText? value with
    | none =>
      dsimp only
      rw [htext]
      exact ⟨_, hgarbled, rfl⟩
    | some text =>
      dsimp only
      rw [htext]
      refine ⟨_, hscheme, if_neg ?_⟩
      -- whatever stood behind the name of the scheme would be a token
      rintro ⟨htake, -⟩
      apply h (String.ofList (text.toList.drop 7))
      refine ⟨value, hvalue, ?_⟩
      have hsplit : "Bearer ".toList ++ text.toList.drop 7 = text.toList := by
        rw [← htake]
        exact List.take_append_drop 7 text.toList
      have hchars : ("Bearer " ++ String.ofList (text.toList.drop 7)).toList
          = "Bearer ".toList ++ (String.ofList (text.toList.drop 7)).toList := String.toList_append
      have hbehind : (String.ofList (text.toList.drop 7)).toList = text.toList.drop 7 :=
        String.toList_ofList
      have hjoined : "Bearer " ++ String.ofList (text.toList.drop 7) = text := by
        apply String.toList_inj.mp
        rw [hchars, hbehind, hsplit]
      rw [htext, hjoined]

/-! ## Callers -/

/-- **A user is identified by a request** in a state of the service: the request bears a token, the service
says whom the token is for, and this is the identifier of the user. -/
def Api.Identifies (api : Api σ) (st : ServiceState σ) (r : Request) (u : UserId) : Prop :=
  ∃ token identity, r.Bears token ∧ (api.service.validate token st).1 = .ok identity
    ∧ UserId.parse identity.userId = .ok u

/-- The same with another store. -/
def Api.on (api : Api σ) (other : Store σ) : Api σ :=
  { api with service := { api.service with store := other } }

/-- Who is identified is taken for the caller, and nothing has happened. -/
theorem caller_identified (h : api.Identifies st r u) :
    Ensures (caller api r) st (fun x st' => x = .ok u ∧ st' = st) (fun _ _ => False) := by
  obtain ⟨token, identity, hbears, hvalid, hparse⟩ := h
  have hvisible : ¬(Text.trim token.toList).isEmpty = true := fun hblank =>
    Service.validate_blank hblank hvalid
  have hidentity : Ensures (api.service.validate token) st
      (fun i st' => i = identity ∧ st' = st) (fun _ _ => False) := by
    refine (Service.validate_unchanged.and Ensures.itself).mono ?_ ?_
    · rintro i st' ⟨hst, hi⟩
      rw [hi] at hvalid
      exact ⟨Except.ok.inj hvalid, hst⟩
    · rintro e st' ⟨-, he⟩
      rw [he] at hvalid
      cases hvalid
  unfold caller
  rw [bearerToken_of_bears hbears, if_neg hvisible]
  dsimp only
  rw [Service.validate_trimmed]
  refine Ensures.bind (Q := fun x st' => x = .ok identity ∧ st' = st) (attempt_ensures ?_) ?_
  · refine hidentity.mono ?_ fun _ _ h => h.elim
    rintro _ _ ⟨rfl, rfl⟩
    exact ⟨rfl, rfl⟩
  · rintro _ st₁ ⟨rfl, rfl⟩
    dsimp only
    rw [hparse]
    exact ⟨rfl, rfl⟩

/-- **Where nobody is identified, the caller is refused**, and no more than reported. -/
theorem caller_unidentified (hclock : Instant.epoch ≤ st.world.now)
    (h : ∀ u, ¬api.Identifies st r u) :
    Ensures (caller api r) st
      (fun x st' => (∃ message ∈ bearerRefusals, x = .error (unauthorized message)) ∧ st.Reports st')
      (fun _ _ => False) := by
  have htoken : "invalid token" ∈ bearerRefusals := by decide
  unfold caller
  by_cases hbears : ∃ token, r.Bears token
  · obtain ⟨token, hbears⟩ := hbears
    rw [bearerToken_of_bears hbears]
    by_cases hblank : (Text.trim token.toList).isEmpty = true
    · rw [if_pos hblank]
      have hscheme : "expected authorization header: Bearer <token>" ∈ bearerRefusals := by decide
      exact ⟨⟨_, hscheme, rfl⟩, .refl st⟩
    rw [if_neg hblank]
    dsimp only
    rw [Service.validate_trimmed]
    refine Ensures.bind (Q := fun x st' => st.Reports st'
      ∧ ∀ identity, x = .ok identity → (api.service.validate token st).1 = .ok identity)
      (attempt_ensures ?_) ?_
    · refine ((Service.validate_reports hclock).and
        (Service.validate_unchanged.and Ensures.itself)).mono ?_ ?_
      · rintro identity st' ⟨-, rfl, hvalid⟩
        refine ⟨.refl st', ?_⟩
        rintro _ ⟨⟩
        rw [hvalid]
      · rintro _ st' ⟨⟨⟨fault, rfl⟩, hreports⟩, -⟩
        exact ⟨hreports, nofun⟩
    rintro (fault | identity) st₁ ⟨⟨events, rfl⟩, hvalid⟩
    · exact ⟨⟨_, htoken, rfl⟩, _, rfl⟩
    · dsimp only
      -- the token was good, so that the identity in it cannot have been
      cases hparse : UserId.parse identity.userId with
      | ok u => exact absurd ⟨token, identity, hbears, hvalid identity rfl, hparse⟩ (h u)
      | error flaw => exact ⟨⟨_, htoken, rfl⟩, _, rfl⟩
  · obtain ⟨message, hmessage, hrefused⟩ := bearerToken_of_not_bears (not_exists.mp hbears)
    rw [hrefused]
    exact ⟨⟨message, hmessage, rfl⟩, .refl st⟩

/-! ## Tokens that were handed out -/

/-- Visible characters of ASCII are read back from the bytes that they are sent as. -/
theorem plainText?_ofString {text : String}
    (h : ∀ c ∈ text.toList, 32 ≤ c.toNat ∧ c.toNat < 127) :
    plainText? (Utf8.ofString text) = some text := by
  have hbytes : Utf8.ofString text = text.toList.map fun c => UInt8.ofNat c.toNat := by
    apply Utf8.encode_ascii
    intro c hc
    have := (h c hc).2
    omega
  have hnat : ∀ c ∈ text.toList, (UInt8.ofNat c.toNat).toNat = c.toNat := by
    intro c hc
    have := (h c hc).2
    apply Utf8.toNat_ofNat
    omega
  have hplain : (Utf8.ofString text).all isPlain = true := by
    rw [hbytes, List.all_eq_true]
    intro b hb
    obtain ⟨c, hc, rfl⟩ := List.mem_map.mp hb
    have hrange := h c hc
    unfold isPlain
    rw [hnat c hc]
    simp only [hrange.1, hrange.2, decide_true, Bool.and_self, Bool.true_or]
  have hchars : ((Utf8.ofString text).map fun b => Char.ofNat b.toNat) = text.toList := by
    rw [hbytes, List.map_map]
    have hid : ∀ c ∈ text.toList,
        ((fun b : UInt8 => Char.ofNat b.toNat) ∘ fun c : Char => UInt8.ofNat c.toNat) c = id c := by
      intro c hc
      show Char.ofNat (UInt8.ofNat c.toNat).toNat = c
      rw [hnat c hc, Char.ofNat_toNat]
    rw [List.map_congr_left hid, List.map_id]
  unfold plainText?
  rw [if_pos hplain, hchars, String.ofList_toList]

/-- A token is written in visible characters of ASCII. -/
theorem visible_of_mem_token {signer : TokenSigner} {claims : Claims} {c : Char}
    (h : c ∈ (signer.encode claims).toList) : 32 ≤ c.toNat ∧ c.toNat < 127 := by
  have hpart : ∀ {b : Bytes}, c ∈ TokenSigner.part b → 32 ≤ c.toNat ∧ c.toNat < 127 := by
    intro b hc
    obtain ⟨n, hn, rfl⟩ := Base64.mem_encode hc
    have hall : ∀ n < 64, 32 ≤ (Base64.Alphabet.urlSafe.symbol n).toNat
        ∧ (Base64.Alphabet.urlSafe.symbol n).toNat < 127 := by decide
    exact hall n hn
  have hdot : 32 ≤ '.'.toNat ∧ '.'.toNat < 127 := by decide
  unfold TokenSigner.encode at h
  rw [String.toList_ofList] at h
  simp only [List.mem_append, List.mem_cons] at h
  rcases h with (h | rfl | h) | rfl | h
  · exact hpart h
  · exact hdot
  · exact hpart h
  · exact hdot
  · exact hpart h

/-- **Whoever presents an issued token is identified by it**, up to the second of its expiry. -/
theorem identifies_issued {tokens : IssuedTokens} {user : User} {now accessEnd : Instant}
    (hfor : tokens.AreFor api.service now user accessEnd)
    (hheader : r.header? "authorization" = some (Utf8.ofString ("Bearer " ++ tokens.accessToken)))
    (hclock : Instant.epoch ≤ st.world.now) (hfresh : st.world.now.seconds < accessEnd.seconds) :
    api.Identifies st r tokens.userId := by
  have hscheme : ∀ c ∈ "Bearer ".toList, 32 ≤ c.toNat ∧ c.toNat < 127 := by
    have hall : ("Bearer ".toList.all fun c => decide (32 ≤ c.toNat ∧ c.toNat < 127)) = true := rfl
    exact fun c hc => of_decide_eq_true (List.all_eq_true.mp hall c hc)
  have hplain : plainText? (Utf8.ofString ("Bearer " ++ tokens.accessToken))
      = some ("Bearer " ++ tokens.accessToken) := by
    apply plainText?_ofString
    intro c hc
    rw [String.toList_append, List.mem_append] at hc
    rcases hc with hc | hc
    · exact hscheme c hc
    · rw [hfor.accessToken] at hc
      exact visible_of_mem_token hc
  have hvalid : Ensures (api.service.validate tokens.accessToken) st
      (fun identity _ => identity = ⟨tokens.userId.toText, user.email.text⟩) (fun _ _ => False) :=
    (Service.validate_issued hfor hclock).mono (fun _ _ h => h.2) fun _ _ h => h.1 hfresh
  obtain ⟨_, hidentity, rfl⟩ := hvalid.exists_ok
  exact ⟨_, _, ⟨_, hheader, hplain⟩, hidentity, UserId.parse_toText tokens.userId⟩

end Http

end SessionAuth
