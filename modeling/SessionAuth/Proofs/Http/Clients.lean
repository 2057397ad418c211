import SessionAuth.Proofs.Http.Respond
import SessionAuth.Proofs.Network.IpAddress
import SessionAuth.Proofs.Service.InStep
import SessionAuth.Proofs.Service.Login
import SessionAuth.Proofs.Store.Answer
import SessionAuth.Proofs.Store.Clients
import SessionAuth.Proofs.Text.Utf8

/-!
What is known about a client has no influence on what the client is told.

A request says two things about its client: the address of its connection, and whatever stands in its
headers as the name of a program. Both are kept with a session that is opened or replaced, and nothing
else is done with them. Two requests that differ in nothing else are therefore the same request up to the
call that stores the session; behind it, the service goes on with what it had before, and is in step with
itself.

For the call not to fail, the name has to be something that can be stored. What is kept of a header is what
`Request.Describes` says: at most 512 characters, and no byte that a text could not have.
-/

set_option autoImplicit false

namespace SessionAuth

variable {σ α : Type}

/-! ## Operations -/

namespace Service

variable {s : Service σ} {count : σ → List Nat} {apart : Client → Client → List Nat → σ → σ → Prop}
  {st : ServiceState σ} {before : List Nat} {c c' : Client}

/-- While the number of sessions is the same, the service is in step with itself. -/
theorem inStep_self (c c' : Client) (h : s.store.IgnoresClients count apart)
    (hcount : count st.world.store = before) :
    ServiceState.InStep (apart c c' before) st st := .refl (hcount ▸ h.refl)

/-- So it is where an operation fails ahead of the store. -/
theorem inStep_quiet {st' : ServiceState σ} (h : s.store.IgnoresClients count apart)
    (hcount : count st.world.store = before) (hquiet : Quiet st st') :
    ServiceState.InStep (apart c c' before) st' st' :=
  inStep_self c c' h (hquiet.store ▸ hcount)

/-- An operation that adds no session agrees with itself. -/
theorem agree_self {a : Serve σ AuthFault α} (h : s.store.IgnoresClients count apart)
    (ha : EndsIn (fun t => count t.world.store = before) a st) :
    Agree (ServiceState.InStep (apart c c' before)) Eq Eq a a st st :=
  .self (inStep_self c c' h (EndsIn.state ha))

/-- A session is opened alike for either client. -/
theorem openSession_inStep (h : s.store.IgnoresClients count apart)
    (hcount : count st.world.store = before) (user : User) :
    Agree (ServiceState.InStep (apart c c' before)) Eq Eq (s.openSession user c)
      (s.openSession user c') st st := by
  refine Agree.bind_self newRefreshSecret_ensures (fun _ _ ht => inStep_quiet h hcount ht.1) ?_
  rintro secret st₁ ⟨h₁, -⟩
  refine Agree.bind_self expiryAfter_ensures
    (fun _ _ ht => inStep_quiet h hcount (h₁.trans ht.1)) ?_
  rintro expires st₂ ⟨rfl, -⟩
  refine Agree.bind_self issue_ensures (fun _ _ ht => inStep_quiet h hcount (h₁.trans ht.1)) ?_
  rintro tokens st₃ ⟨rfl, -⟩
  obtain rfl : count st₃.world.store = before := h₁.store ▸ hcount
  refine (boundedSession_inStep (h.createSession _ _ _ _ _ _ _)).bind ?_
  rintro id _ t t' rfl ht
  exact ht.report_bind fun _ _ hu => .pure rfl hu

theorem login_inStep (h : s.store.IgnoresClients count apart) (raw password : String) :
    Agree (ServiceState.InStep (apart c c' (count st.world.store))) Eq Eq
      (s.login raw password c) (s.login raw password c') st st := by
  refine Agree.bind_self requireEmail_ensures (fun _ _ ht => inStep_quiet h rfl ht) ?_
  rintro email st₀ ⟨rfl, -⟩
  refine Agree.ite (fun _ => .throw rfl (inStep_self c c' h rfl)) fun _ => ?_
  refine Agree.bind_self (bounded_ensures (h.findUserByEmail email)) ?_ ?_
  · rintro _ t ⟨_, w, hw, ht, -⟩
    exact inStep_self c c' h ((congrArg count ht).trans hw)
  rintro found _ ⟨w, rfl, hfound⟩
  have hcount : count w.store = count st₀.world.store := by
    cases found with
    | ok _ => exact hfound
    | error _ => exact hfound
  have hquiet : ∀ {t : ServiceState σ}, Quiet { st₀ with world := w } t →
      count t.world.store = count st₀.world.store := fun ht => (congrArg count ht.store).trans hcount
  -- the client comes into play only where somebody is found and let in
  rcases found with fault | _ | user
  · exact agree_self h (internal_ensures fun _ ht => hquiet ht)
  · refine agree_self h (Ensures.bind_mono equalizeUnknownUser_quiet (fun _ _ ht => hquiet ht)
      fun _ _ ht => ?_)
    exact Serve.report_bind fun _ hu => hquiet (ht.trans hu)
  · refine Agree.bind_self authenticate_ensures (fun _ _ ht => inStep_quiet h hcount ht) ?_
    rintro _ t ⟨ht, -⟩
    exact openSession_inStep h (hquiet ht) user

theorem refresh_inStep (h : s.store.IgnoresClients count apart) (raw : String) :
    Agree (ServiceState.InStep (apart c c' (count st.world.store))) Eq Eq (s.refresh raw c)
      (s.refresh raw c') st st := by
  refine Agree.bind_self requireArgument_ensures (fun _ _ ht => inStep_self c c' h (ht ▸ rfl)) ?_
  rintro oldSecret st₀ ⟨rfl, -⟩
  refine Agree.bind_self newRefreshSecret_ensures (fun _ _ ht => inStep_quiet h rfl ht.1) ?_
  rintro newSecret st₁ ⟨h₁, -⟩
  refine Agree.bind_self expiryAfter_ensures
    (fun _ _ ht => inStep_quiet h rfl (h₁.trans ht.1)) ?_
  rintro expires st₂ ⟨rfl, -⟩
  rw [← h₁.store]
  refine (boundedSession_inStep (h.rotateSession _ _ _ _ _ _)).bind ?_
  rintro rotated _ t t' rfl ht
  exact ht.report_bind fun _ _ hu => hu.issue

end Service

/-! ## Requests -/

namespace Http

variable {api : Api σ} {r r' : Request}

/-- Whether a header names the program of a client. -/
def namesAgent (header : String × Bytes) : Bool := foldCase header.1 == foldCase "user-agent"

/-- **Requests that are the same but for the client**: the connection may come from elsewhere, and the
headers that name a program may be others, fewer or more, in other places. -/
structure Request.SameButClient (r r' : Request) : Prop where
  method : r.method = r'.method
  target : r.target = r'.target
  headers : r.headers.filter (!namesAgent ·) = r'.headers.filter (!namesAgent ·)
  body : r.body = r'.body

/-- The routes on which a session is opened or replaced. -/
def Route.StoresSession (route : Route) : Prop := route = .login ∨ route = .refresh

/-- A request on such a route. -/
def Request.StoresSession (r : Request) : Prop :=
  ∃ route, Route.paths.lookup r.path = some route ∧ route.StoresSession

/-- **What is kept of a client.** The address is the one that the connection comes from, and is read back
from its text. The name of the program is what the first header about it starts with: at least one
character and at most 512, all of which a text can hold. There is none only where the header is missing or
empty, or has bytes that are no plain text. -/
structure Request.Describes (r : Request) (c : Client) : Prop where
  ip : c.ip = r.peer
  readable : (c.ip.map IpAddress.toText).bind IpAddress.parse? = r.peer
  named : ∀ agent, c.userAgent = some agent → agent ≠ "" ∧ agent.length ≤ 512
    ∧ (∀ char ∈ agent.toList, char ≠ '\x00')
    ∧ ∃ value, r.header? "user-agent" = some value ∧ Utf8.ofString agent = value.take 512
  unnamed : c.userAgent = none → ∀ value, r.header? "user-agent" = some value →
    value = [] ∨ ∃ b ∈ value, isPlain b = false

/-! ### What is kept of them -/

/-- A byte that is read as text is a character of ASCII, and not the first one. -/
theorem toNat_of_isPlain {b : UInt8} (h : isPlain b = true) :
    0 < b.toNat ∧ (Char.ofNat b.toNat).toNat = b.toNat ∧ b.toNat < 0x80 := by
  have hrange : 0 < b.toNat ∧ b.toNat < 0x80 := by
    simp only [isPlain, Bool.or_eq_true, Bool.and_eq_true, decide_eq_true_eq, beq_iff_eq] at h
    omega
  refine ⟨hrange.1, ?_, hrange.2⟩
  have hvalid : b.toNat.isValidChar := Or.inl (by omega)
  rw [Char.ofNat, dif_pos hvalid]
  rfl

/-- The characters that are read off the value of a header, from the first one on, are its bytes. -/
theorem encode_take_of_plain {value : Bytes} (h : ∀ b ∈ value, isPlain b = true) (n : Nat) :
    Utf8.encode ((value.map fun b => Char.ofNat b.toNat).take n) = value.take n := by
  rw [← List.map_take]
  have hplain : ∀ b ∈ value.take n, isPlain b = true := fun b hb => h b (List.mem_of_mem_take hb)
  rw [Utf8.encode_ascii, List.map_map]
  · have hback : ∀ b ∈ value.take n,
        ((fun c : Char => UInt8.ofNat c.toNat) ∘ fun b : UInt8 => Char.ofNat b.toNat) b = id b := by
      intro b hb
      show UInt8.ofNat (Char.ofNat b.toNat).toNat = b
      rw [(toNat_of_isPlain (hplain b hb)).2.1, UInt8.ofNat_toNat]
    rw [List.map_congr_left hback, List.map_id]
  · intro c hc
    obtain ⟨b, hb, rfl⟩ := List.mem_map.mp hc
    obtain ⟨-, hnat, hlt⟩ := toNat_of_isPlain (hplain b hb)
    exact hnat.symm ▸ hlt

theorem plainText?_of_plain {value : Bytes} (h : ∀ b ∈ value, isPlain b = true) :
    plainText? value = some (String.ofList (value.map fun b => Char.ofNat b.toNat)) := by
  unfold plainText?
  rw [if_pos (List.all_eq_true.mpr h)]

theorem plainText?_eq_some {value : Bytes} {text : String} (h : plainText? value = some text) :
    (∀ b ∈ value, isPlain b = true) ∧ text.toList = value.map fun b => Char.ofNat b.toNat := by
  unfold plainText? at h
  split at h
  · rename_i hplain
    obtain rfl := Option.some.inj h
    exact ⟨List.all_eq_true.mp hplain, String.toList_ofList⟩
  · cases h

/-- The name of a program is read off its header. -/
theorem userAgent_named {agent : String} (h : (clientOf r).userAgent = some agent) :
    ∃ value, r.header? "user-agent" = some value ∧ (∀ b ∈ value, isPlain b = true) ∧ agent ≠ ""
      ∧ agent.toList = (value.map fun b => Char.ofNat b.toNat).take 512 := by
  obtain ⟨hagent, hnonempty⟩ := Option.filter_eq_some_iff.mp h
  obtain ⟨text, htext, rfl⟩ := Option.map_eq_some_iff.mp hagent
  obtain ⟨value, hvalue, htext⟩ := Option.bind_eq_some_iff.mp htext
  obtain ⟨hplain, hchars⟩ := plainText?_eq_some htext
  refine ⟨value, hvalue, hplain, ?_, ?_⟩
  · intro hempty
    rw [hempty] at hnonempty
    exact absurd hnonempty (by decide)
  · rw [String.toList_ofList, hchars]
    rfl

/-- A plain header that is not empty names a program. -/
theorem userAgent_unnamed {value : Bytes} (h : (clientOf r).userAgent = none)
    (hvalue : r.header? "user-agent" = some value) (hplain : ∀ b ∈ value, isPlain b = true) :
    value = [] := by
  cases value with
  | nil => rfl
  | cons b rest =>
    unfold clientOf at h
    rw [hvalue, Option.bind_some, plainText?_of_plain hplain, Option.map_some, String.toList_ofList,
      Option.filter_eq_none_iff] at h
    have hlimit : userAgentLimit = 0 := by
      simpa using h _ rfl
    exact absurd hlimit (by decide)

/-- **Whatever the bytes of a header are, what is kept of it can be stored.** -/
theorem describes_clientOf (r : Request) : r.Describes (clientOf r) := by
  refine ⟨rfl, ?_, fun agent hagent => ?_, fun hnone value hvalue => ?_⟩
  · show (r.peer.map IpAddress.toText).bind IpAddress.parse? = r.peer
    cases r.peer with
    | none => rfl
    | some ip => exact IpAddress.parse?_toText ip
  · obtain ⟨value, hvalue, hplain, hnonempty, hchars⟩ := userAgent_named hagent
    refine ⟨hnonempty, ?_, ?_, value, hvalue, ?_⟩
    · rw [← String.length_toList, hchars]
      exact List.length_take_le _ _
    · intro char hchar
      rw [hchars] at hchar
      obtain ⟨b, hb, rfl⟩ := List.mem_map.mp (List.mem_of_mem_take hchar)
      obtain ⟨hpos, hnat, -⟩ := toNat_of_isPlain (hplain b hb)
      intro hnul
      rw [hnul] at hnat
      exact absurd hnat (Nat.ne_of_lt hpos)
    · rw [Utf8.ofString, hchars, encode_take_of_plain hplain]
  · by_cases hplain : ∀ b ∈ value, isPlain b = true
    · exact .inl (userAgent_unnamed hnone hvalue hplain)
    · push Not at hplain
      obtain ⟨b, hb, hodd⟩ := hplain
      exact .inr ⟨b, hb, Bool.eq_false_iff.mpr hodd⟩

/-! ### What is the same -/

namespace Request.SameButClient

theorem path (h : r.SameButClient r') : r.path = r'.path := by
  unfold Request.path
  rw [h.target]

/-- Headers of other names have the same values. -/
theorem header? {name : String} (h : r.SameButClient r')
    (hname : foldCase name ≠ foldCase "user-agent") : r.header? name = r'.header? name := by
  have hother : ∀ (l : List (String × Bytes)), l.find? (fun h => foldCase h.1 == foldCase name)
      = (l.filter (!namesAgent ·)).find? fun h => foldCase h.1 == foldCase name := by
    intro l
    rw [List.find?_filter]
    refine congrArg (l.find? ·) (funext fun header => ?_)
    cases hheader : foldCase header.1 == foldCase name with
    | false => exact (decide_eq_false fun hboth => nomatch hboth.2).symm
    | true =>
      have hother : namesAgent header = false := by
        rw [namesAgent, eq_of_beq hheader]
        exact beq_false_of_ne hname
      rw [hother]
      rfl
  unfold Request.header?
  rw [hother, h.headers, ← hother]

theorem readBody {τ : Type} (h : r.SameButClient r') (record : Json.Record τ α) :
    readBody record r = readBody record r' := by
  have hannounces : announcesJson r = announcesJson r' := by
    unfold announcesJson
    rw [h.header? (by decide)]
  unfold Http.readBody
  rw [hannounces, h.body]

theorem withBody {τ : Type} (h : r.SameButClient r') (record : Json.Record τ α)
    (f : α → Answering σ Response) : withBody record r f = withBody record r' f := by
  unfold Http.withBody
  rw [h.readBody]

theorem caller (h : r.SameButClient r') : caller api r = caller api r' := by
  have htoken : bearerToken r = bearerToken r' := by
    unfold bearerToken
    rw [h.header? (by decide)]
  unfold Http.caller
  rw [htoken]

theorem wrongMethod (h : r.SameButClient r') (route : Route) :
    wrongMethod api r route = wrongMethod api r' route := by
  unfold Http.wrongMethod
  rw [h.caller]

/-- Where no session is stored, a route serves the requests the same. -/
theorem run (h : r.SameButClient r') {route : Route} (hroute : ¬route.StoresSession) :
    route.run api r = route.run api r' := by
  cases route with
  | login => exact absurd (.inl rfl) hroute
  | refresh => exact absurd (.inr rfl) hroute
  | health => rfl
  | register => exact h.withBody _ _
  | validate => exact h.withBody _ _
  | logout => exact h.withBody _ _
  | logoutAll =>
    show (Http.caller api r >>= _) = (Http.caller api r' >>= _)
    rw [h.caller]

end Request.SameButClient

section Stored

variable {count : σ → List Nat} {apart : Client → Client → List Nat → σ → σ → Prop}

/-- Where a session is stored, it is stored alike for both requests. -/
theorem run_inStep (st : ServiceState σ) (h : api.service.store.IgnoresClients count apart)
    (hr : r.SameButClient r') {route : Route} (hroute : route.StoresSession) :
    Agree (ServiceState.InStep (apart (clientOf r) (clientOf r') (count st.world.store))) Eq Eq
      (route.run api r) (route.run api r') st st := by
  have hstill := Service.inStep_self (clientOf r) (clientOf r') h (rfl : count st.world.store = _)
  rcases hroute with rfl | rfl
  · exact withBody_agree (hr.readBody _)
      (fun c => respond_agree (Service.login_inStep h c.email c.password)) hstill
  · exact withBody_agree (hr.readBody _)
      (fun token => respond_agree (Service.refresh_inStep h token)) hstill

/-- **Requests that store a session** are responded to the same, whatever their method. -/
theorem handle_inStep (st : ServiceState σ) (h : api.service.store.IgnoresClients count apart)
    (hr : r.SameButClient r') (hstores : r.StoresSession) :
    Agree (ServiceState.InStep (apart (clientOf r) (clientOf r') (count st.world.store))) Eq Eq
      (handle api r) (handle api r') st st := by
  obtain ⟨route, hlookup, hroute⟩ := hstores
  have hstill := Service.inStep_self (clientOf r) (clientOf r') h (rfl : count st.world.store = _)
  have hwrong : wrongMethod api r route = return { status := 405, allow := some route.allow } := by
    rcases hroute with rfl | rfl <;> rfl
  unfold handle
  rw [← hr.method, ← hr.path, hlookup]
  refine .ite (fun _ => .pure rfl hstill) fun _ => ?_
  dsimp only
  refine .ite (fun _ => ?_) fun _ => ?_
  · refine (run_inStep st h hr hroute).bind ?_
    rintro response _ t t' rfl ht
    exact .pure rfl ht
  · rw [← hr.wrongMethod, hwrong]
    exact .pure rfl hstill

end Stored

/-- Elsewhere, they are not told apart. -/
theorem handle_congr (hr : r.SameButClient r') (hstores : ¬r.StoresSession) :
    handle api r = handle api r' := by
  unfold handle
  rw [← hr.method, ← hr.path]
  cases hlookup : Route.paths.lookup r.path with
  | none => rfl
  | some route =>
    dsimp only
    rw [hr.run fun hroute => hstores ⟨route, hlookup, hroute⟩, hr.wrongMethod]

/-- **A service that does not go by clients**: two requests that are the same but for the client are
responded to the same. Where they open or replace a session, what is stored is as far apart as two clients
allow; elsewhere the whole run is the same. -/
def Api.IgnoresClients (api : Api σ) (count : σ → List Nat)
    (apart : Client → Client → List Nat → σ → σ → Prop) : Prop :=
  ∀ (st : ServiceState σ) (r r' : Request), r.SameButClient r' →
    (handle api r st).1 = (handle api r' st).1
      ∧ (r.StoresSession → ServiceState.InStep
          (apart (clientOf r) (clientOf r') (count st.world.store)) (handle api r st).2
          (handle api r' st).2)
      ∧ (¬r.StoresSession → handle api r st = handle api r' st)

theorem Api.ignoresClients {count : σ → List Nat}
    {apart : Client → Client → List Nat → σ → σ → Prop}
    (h : api.service.store.IgnoresClients count apart) : api.IgnoresClients count apart := by
  intro st r r' hr
  by_cases hstores : r.StoresSession
  · obtain ⟨hresponse, hstate⟩ := (handle_inStep st h hr hstores).same
    exact ⟨hresponse, fun _ => hstate, fun hnot => absurd hstores hnot⟩
  · have heq : handle api r st = handle api r' st := congrFun (handle_congr hr hstores) st
    exact ⟨congrArg Prod.fst heq, fun hstores' => absurd hstores' hstores, fun _ => heq⟩

end Http

/-! ## Both stores -/

/-- **What is known about a client decides nothing.** Of two requests that differ in the address of the
connection and in the headers about the program at most, either store makes the same: the response is the
same, and so is what is stored, but for what the row of a new session says of the client. It says of a client
what the request does (`Request.Describes`), and this can be stored, whatever the bytes of the headers
are. The database may do anything to its statements. -/
theorem clients_decide_nothing :
    (∀ (s : TableService) (ping : Option (Act Database String Unit)),
      Http.Api.IgnoresClients ⟨s.service, ping⟩ Database.counts
        fun c c' before => Database.InStep (Database.TablesForClients c c' before))
    ∧ (∀ (signer : TokenSigner) (settings : AuthSettings)
        (ping : Option (Act MemoryStore String Unit)),
      Http.Api.IgnoresClients ⟨memoryService signer settings, ping⟩ MemoryStore.counts
        MemoryStore.ForClients)
    ∧ ∀ r : Http.Request, r.Describes (Http.clientOf r) := by
  refine ⟨fun s ping => ?_, fun signer settings ping => ?_, Http.describes_clientOf⟩
  · exact Http.Api.ignoresClients (Relational.ignoresClients s.lockTimeout)
  · exact Http.Api.ignoresClients MemoryStore.ignoresClients

/-! ### A token that is exchanged from two places -/

/-- The exchange of a refresh token, from somewhere, with some headers about the program. -/
def refreshFrom (peer : Option IpAddress) (agents : List Bytes) : Http.Request where
  method := "POST"
  target := "/api/auth/refresh"
  headers := agents.map ("User-Agent", ·) ++ [("content-type", Utf8.ofString "application/json")]
  body := "\x7b\"refresh_token\": \"old\"\x7d"
  peer

theorem refreshFrom_sameButClient (peer peer' : Option IpAddress) (agents agents' : List Bytes) :
    (refreshFrom peer agents).SameButClient (refreshFrom peer' agents') := by
  have hname : Http.foldCase "User-Agent" = Http.foldCase "user-agent" := by decide
  have hagents : ∀ agents : List Bytes,
      (agents.map ("User-Agent", ·)).filter (!Http.namesAgent ·) = [] := by
    intro agents
    rw [List.filter_eq_nil_iff]
    intro header hheader
    obtain ⟨agent, -, rfl⟩ := List.mem_map.mp hheader
    rw [Http.namesAgent, hname, BEq.rfl]
    exact Bool.false_ne_true
  refine ⟨rfl, rfl, ?_, rfl⟩
  show List.filter _ (_ ++ _) = List.filter _ (_ ++ _)
  rw [List.filter_append, List.filter_append, hagents, hagents]

theorem clients_decide_nothing_refresh :
    let known := refreshFrom (some (.v4 192 0 2 1)) [Utf8.ofString "curl/8.5.0"]
    let odd := refreshFrom none [[0xff], Utf8.ofString "curl/8.5.0"]
    let st : ServiceState Database := ⟨Relational.roomy, lightPool, none⟩
    (known.SameButClient odd ∧ known.StoresSession)
      ∧ (Http.clientOf known).userAgent = some "curl/8.5.0"
      ∧ Http.clientOf odd = ⟨none, none⟩
      ∧ (Http.handle ⟨loneService.service, none⟩ known st).1.toOption.map (·.status) = some 200
      ∧ (Http.handle ⟨loneService.service, none⟩ known st).1
        = (Http.handle ⟨loneService.service, none⟩ odd st).1
      ∧ ServiceState.InStep (Database.InStep
          (Database.TablesForClients (Http.clientOf known) ⟨none, none⟩ [1]))
        (Http.handle ⟨loneService.service, none⟩ known st).2
        (Http.handle ⟨loneService.service, none⟩ odd st).2
      ∧ (Http.handle ⟨memoryService ⟨[], "issuer"⟩ {}, none⟩ known freshMemory).1
        = (Http.handle ⟨memoryService ⟨[], "issuer"⟩ {}, none⟩ odd freshMemory).1 := by
  intro known odd st
  have hsame : known.SameButClient odd := refreshFrom_sameButClient _ _ _ _
  have hlookup : Http.Route.paths.lookup known.path = some .refresh := by
    decide +kernel
  have hstores : known.StoresSession := ⟨.refresh, hlookup, .inr rfl⟩
  have hknown : (Http.clientOf known).userAgent = some "curl/8.5.0" := by
    decide +kernel
  have hodd : Http.clientOf odd = ⟨none, none⟩ := by
    decide +kernel
  have hanswer : (Http.handle ⟨loneService.service, none⟩ known st).1.toOption.map (·.status)
      = some 200 := by
    decide +kernel
  have hone : st.world.store.counts = [1] := by
    show Relational.roomy.store.counts = [1]
    rw [Relational.roomy, Database.counts, Database.versions, Relational.household_tables,
      (Relational.household_idle _).1]
    rfl
  have htables := clients_decide_nothing.1 loneService none st known odd hsame
  have hmemory := clients_decide_nothing.2.1 ⟨[], "issuer"⟩ {} none freshMemory known odd hsame
  have hstate := htables.2.1 hstores
  rw [hone, hodd] at hstate
  exact ⟨⟨hsame, hstores⟩, hknown, hodd, hanswer, htables.1, hstate, hmemory.1⟩

end SessionAuth
