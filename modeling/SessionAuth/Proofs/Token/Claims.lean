import SessionAuth.Proofs.Json.Record
import SessionAuth.Proofs.Keyed
import SessionAuth.Token.Claims
import SessionAuth.Token.Header
import SessionAuth.Token.Registered

/-!
What is read of the payload and of the header of a token that has been written.

The payload is one object that is read twice, by two records that differ in what they know: the claims
know all five members, the registered claims three of them, and pass over the other two.
-/

set_option autoImplicit false

namespace SessionAuth

open Json

variable {rest : Bytes} {s : String} {i : Int}

/-! ## Values as bytes -/

theorem encode_text (s : String) : Utf8.encode (Value.text s).toChars = textBytes s := by
  rw [Value.toChars]
  exact encode_quote s

theorem encode_int (i : Int) : Utf8.encode (Value.int i).toChars = intBytes i := by
  rw [Value.int, Value.toChars]
  rfl

/-! ## The claims -/

theorem taken_text {σ : Type} {fields : List (Json.Field σ)} {name : String} {get : σ → Option String}
    {set : σ → String → σ} {draft : σ}
    (hfield : fields.find? (·.name == name) = some (.text name get set))
    (hfilled : (get draft).isSome = false) :
    Taken fields (name, .text s) draft (set draft s) := by
  refine .read hfield hfilled fun rest _ => ?_
  show (readText _).map _ = _
  rw [encode_text, readText_textBytes]
  rfl

theorem taken_int64 {σ : Type} {fields : List (Json.Field σ)} {name : String} {get : σ → Option Int}
    {set : σ → Int → σ} {draft : σ} (hi : Decimal.isSignedWord i = true)
    (hfield : fields.find? (·.name == name) = some (.int64 name get set))
    (hfilled : (get draft).isSome = false) :
    Taken fields (name, .int i) draft (set draft i) := by
  refine .read hfield hfilled fun rest hrest => ?_
  show (readInt64 _).map _ = _
  rw [encode_int, readInt64_intBytes hi hrest]
  rfl

/-- **Claims read back.** -/
theorem Claims.parse_toJson (c : Claims) (hissued : Decimal.isSignedWord c.issuedAt = true)
    (hexpires : Decimal.isSignedWord c.expiresAt = true) :
    Claims.parse (Utf8.encode c.toJson.toChars) = .ok c := by
  have htaken : TakenAll record.fields [("sub", .text c.subject), ("email", .text c.email),
      ("iss", .text c.issuer), ("iat", .int c.issuedAt), ("exp", .int c.expiresAt)] {}
      ⟨some c.subject, some c.email, some c.issuer, some c.issuedAt, some c.expiresAt⟩ := by
    refine .cons (taken_text rfl rfl) (.cons (taken_text rfl rfl) (.cons (taken_text rfl rfl) ?_))
    exact .cons (taken_int64 hissued rfl rfl) (.cons (taken_int64 hexpires rfl rfl) .nil)
  exact Record.readAll_object htaken rfl

/-! ## The registered claims -/

namespace RegisteredClaims

theorem readOption_textBytes {α : Type} (read : Reader α) :
    readOption read (textBytes s ++ rest)
      = (read (textBytes s ++ rest)).map fun p => (some p.1, p.2) := by
  unfold readOption
  rw [skipSpace_textBytes]
  rfl

theorem readSubject_textBytes :
    leniently (readOption readText) (textBytes s ++ rest) = .ok (.present s, rest) := by
  unfold leniently
  rw [readOption_textBytes, readText_textBytes]
  rfl

theorem readOneOrMany_textBytes :
    readOneOrMany (textBytes s ++ rest) = .ok (.present (.one s), rest) := by
  have hread : readValue claimDepth (textBytes s ++ rest) = .ok (.text s, rest) := by
    show readValue (125 + 1) _ = _
    rw [readValue]
    exact readValueWith_textBytes
  unfold readOneOrMany
  rw [readOption_textBytes, hread]
  rfl

/-- A time that is written as a whole number. -/
def timeOf (i : Int) : Claimed Nat := if 0 ≤ i then .present i.toNat else .unreadable

theorem readTime_intBytes (hi : Decimal.isSignedWord i = true) (hrest : EndsNumber rest) :
    readTime (intBytes i ++ rest) = .ok (timeOf i, rest) := by
  have hread : readValue 0 (intBytes i ++ rest) = .ok (.number (.int i), rest) := by
    rw [readValue]
    exact readValueWith_intBytes hi hrest
  have htime : ((seconds? (.int i)).elim .unreadable .present : Claimed Nat) = timeOf i := by
    show (if 0 ≤ i then some i.toNat else none).elim _ _ = if 0 ≤ i then _ else _
    split
    · rfl
    · rfl
  -- a number starts neither a list nor an object
  have hopens : ∃ c tail, intBytes i ++ rest = c :: tail ∧ isSpace c = false ∧ c ≠ byte '['
      ∧ c ≠ byte '\x7b' := by
    rcases intBytes_cases hi hrest with ⟨tail, hbytes, -⟩ | ⟨d, hd, tail, hbytes, -⟩
    · exact ⟨_, tail, hbytes, rfl, by decide, by decide⟩
    · have hne : ∀ d < 10, digitByte d ≠ byte '[' ∧ digitByte d ≠ byte '\x7b' := by decide
      exact ⟨_, tail, hbytes, (digitByte_opens hd).1, hne d hd⟩
  obtain ⟨c, tail, hbytes, hspace, hlist, hobject⟩ := hopens
  rw [hbytes] at hread ⊢
  unfold readTime
  rw [skipSpace_cons hspace]
  simp only [hlist, hobject, if_false, hread, htime]

theorem taken_claim {α : Type} {fields : List (Json.Field Draft)} {name : String} {read : Reader α}
    {set : RegisteredClaims → α → RegisteredClaims} {draft : Draft} {v : Value} {a : α}
    (hread : ∀ rest, EndsNumber rest → read (Utf8.encode v.toChars ++ rest) = .ok (a, rest))
    (hfield : fields.find? (·.name == name) = some (claim name read set))
    (hfilled : draft.seen.contains name = false) :
    Taken fields (name, v) draft ⟨name :: draft.seen, set draft.claims a⟩ := by
  refine .read hfield hfilled fun rest hrest => ?_
  show (read _).map _ = _
  rw [hread rest hrest]
  rfl

/-- What the registered claims are for claims. -/
def ofClaims (c : Claims) : RegisteredClaims where
  expiresAt := timeOf c.expiresAt
  subject := .present c.subject
  issuer := .present (.one c.issuer)

theorem parse_toJson (c : Claims) (hissued : Decimal.isSignedWord c.issuedAt = true)
    (hexpires : Decimal.isSignedWord c.expiresAt = true) :
    RegisteredClaims.parse (Utf8.encode c.toJson.toChars) = .ok (ofClaims c) := by
  suffices htaken : TakenAll record.fields [("sub", .text c.subject), ("email", .text c.email),
      ("iss", .text c.issuer), ("iat", .int c.issuedAt), ("exp", .int c.expiresAt)] {}
      ⟨["exp", "iss", "sub"], ofClaims c⟩ from Record.readAll_object htaken rfl
  refine .cons (taken_claim (a := .present c.subject) ?_ rfl rfl) (.cons (.passed rfl ?_) (.cons
    (taken_claim (a := .present (.one c.issuer)) ?_ rfl rfl) (.cons (.passed rfl ?_) (.cons
    (taken_claim (a := timeOf c.expiresAt) ?_ rfl rfl) .nil))))
  · intro rest _
    rw [encode_text]
    exact readSubject_textBytes
  · intro rest _
    rw [encode_text]
    exact skipValue_textBytes
  · intro rest _
    rw [encode_text]
    exact readOneOrMany_textBytes
  · intro rest hrest
    rw [encode_int]
    exact skipValue_intBytes hissued hrest
  · intro rest hrest
    rw [encode_int]
    exact readTime_intBytes hexpires hrest

end RegisteredClaims

/-! ## The header -/

namespace TokenHeader

theorem readName_textBytes {α : Type} {names : List (String × α)} {a : α}
    (h : names.lookup s = some a) : readName names (textBytes s ++ rest) = .ok (a, rest) := by
  unfold readName
  rw [skipSpace_textBytes]
  show (readTextTail (quotedTail s ++ rest) >>= _) = _
  rw [readTextTail_quotedTail]
  simp only [ok_bind, h]

theorem readAlternative_textBytes {α : Type} {names : List (String × α)} {a : α}
    (h : names.lookup s = some a) : readAlternative names (textBytes s ++ rest) = .ok (a, rest) := by
  unfold readAlternative
  rw [skipSpace_textBytes]
  exact readName_textBytes h

/-- The header that is written names the one algorithm. -/
theorem parse_issued : parse (Utf8.encode issued.toChars) = .ok .hs256 := by
  have htype : Taken record.fields ("typ", .text "JWT") {} ⟨["typ"], none⟩ := by
    refine .read rfl rfl fun rest _ => ?_
    show (readOption readText _).map _ = _
    rw [encode_text, RegisteredClaims.readOption_textBytes, readText_textBytes]
    rfl
  have halgorithm : Taken record.fields ("alg", .text "HS256") ⟨["typ"], none⟩
      ⟨["typ"], some .hs256⟩ := by
    refine .read rfl rfl fun rest _ => ?_
    show (readAlternative SignatureAlgorithm.names _).map _ = _
    rw [encode_text, readAlternative_textBytes rfl]
    rfl
  exact Record.readAll_object (.cons htype (.cons halgorithm .nil)) rfl

end TokenHeader

/-! ## A header that is accepted -/

theorem require_eq_ok {α : Type} {name : String} {o : Option α} {a : α}
    (h : require name o = .ok a) : o = some a := by
  cases o with
  | none => cases h
  | some a' => exact congrArg some (Except.ok.inj h)

namespace TokenHeader

/-- **A value that is a name**: the name as text, or an object that starts with it. -/
def IsNamed (name : String) (v : Bytes) : Prop :=
  ∃ text behind, (skipSpace v = byte '"' :: text
      ∨ ∃ rest, skipSpace v = byte '\x7b' :: rest ∧ skipSpace rest = byte '"' :: text)
    ∧ readTextTail text = .ok (name, behind)

/-- **A header that names an algorithm**: an object with the name as its member `alg`, or a list with the
name behind the type. -/
def Names (name : String) (header : Bytes) : Prop :=
  (∃ rest v, skipSpace header = byte '\x7b' :: rest
      ∧ HasMember record.fields true {} rest "alg" v ∧ IsNamed name v)
    ∨ ∃ rest b type b' v, skipSpace header = byte '[' :: rest
      ∧ nextElement true rest = .ok (true, b) ∧ readOption readText b = .ok (type, b')
      ∧ nextElement false b' = .ok (true, v) ∧ IsNamed name v

theorem readName_eq_ok {b behind : Bytes}
    (h : readName SignatureAlgorithm.names b = .ok (.hs256, behind)) :
    ∃ text behind, skipSpace b = byte '"' :: text ∧ readTextTail text = .ok ("HS256", behind) := by
  unfold readName at h
  split at h
  · cases h
  rename_i c text hb
  split at h
  · rename_i hc
    obtain ⟨⟨name, behind'⟩, hname, h⟩ := bind_eq_ok h
    dsimp only at h
    split at h
    · rename_i a hlookup
      obtain ⟨rfl, -⟩ := Prod.mk.inj (Except.ok.inj h)
      have honce : ∀ p ∈ SignatureAlgorithm.names, p.2 = .hs256 → p.1 = "HS256" := by decide
      obtain rfl : name = "HS256" := honce _ (mem_of_lookup hlookup) rfl
      exact ⟨text, behind', by rw [hb, hc], hname⟩
    · cases h
  · exact absurd h wrongType_ne_ok

theorem isNamed_of_readAlternative {v behind : Bytes}
    (h : readAlternative SignatureAlgorithm.names v = .ok (.hs256, behind)) : IsNamed "HS256" v := by
  unfold readAlternative at h
  split at h
  · cases h
  rename_i c rest hv
  split at h
  · rename_i hc
    obtain ⟨text, behind', htext, hname⟩ := readName_eq_ok h
    rw [hc, skipSpace_cons rfl] at htext
    exact ⟨text, behind', .inl (by rw [hv, hc, htext]), hname⟩
  split at h
  · rename_i hc
    obtain ⟨⟨a, b⟩, hread, h⟩ := bind_eq_ok h
    obtain ⟨_, -, h⟩ := bind_eq_ok h
    obtain ⟨_, -, h⟩ := bind_eq_ok h
    have ha : a = .hs256 := by
      split at h
      · cases h
      split at h
      · exact (Prod.mk.inj (Except.ok.inj h)).1
      · cases h
    subst ha
    obtain ⟨text, behind', htext, hname⟩ := readName_eq_ok hread
    exact ⟨text, behind', .inr ⟨rest, by rw [hv, hc], htext⟩, hname⟩
  · cases h

/-- **One field is for the algorithm**, and it reads a value that names it; the others leave it alone. -/
theorem field_cases {field : Json.Field Draft} (hfield : field ∈ record.fields) {d d' : Draft}
    {b b' : Bytes} (h : field.read d b = .ok (d', b')) :
    d'.algorithm = d.algorithm ∨ field.name = "alg"
      ∧ ∃ a, d'.algorithm = some a ∧ readAlternative SignatureAlgorithm.names b = .ok (a, b') := by
  have hoptional : ∀ {α : Type} {name : String} {read : Reader α},
      (optionalField name read).read d b = .ok (d', b') → d'.algorithm = d.algorithm := by
    intro _ _ _ h
    obtain ⟨_, -, hd⟩ := map_eq_ok h
    rw [← (Prod.mk.inj hd).1]
  simp only [record, List.mem_cons, List.not_mem_nil, or_false] at hfield
  rcases hfield with rfl | rfl | rfl | rfl | rfl | rfl | rfl | rfl | rfl | rfl
  case inr.inl =>
    obtain ⟨⟨a, _⟩, hread, hd⟩ := map_eq_ok h
    obtain ⟨rfl, rfl⟩ := Prod.mk.inj hd
    exact .inr ⟨rfl, a, rfl, hread⟩
  all_goals exact .inl (hoptional h)

/-- **A header that is accepted names the one algorithm.** -/
theorem names_of_parse {header : Bytes} (h : parse header = .ok .hs256) : Names "HS256" header := by
  obtain ⟨_, hread⟩ := readAll_eq_ok h
  obtain ⟨rest, draft, behind, hfinish, ⟨hopen, hfields⟩ | ⟨hopen, hfields⟩⟩ := Record.read_eq_ok hread
  · have hafter : draft.algorithm = some .hs256 := require_eq_ok hfinish
    obtain ⟨k, v, field, d, d', next, hmember, hfield, hread, hbefore, hnow⟩ :=
      readFields_member (P := fun d => d.algorithm = some .hs256) (fun hnone => by cases hnone)
        hafter hfields
    have hk := List.find?_some hfield
    rcases field_cases (List.mem_of_find?_eq_some hfield) hread with hsame | ⟨hname, a, ha, hvalue⟩
    · exact absurd (hsame.symm.trans hnow) hbefore
    · obtain rfl := Option.some.inj (ha.symm.trans hnow)
      obtain rfl : "alg" = k := hname.symm.trans (eq_of_beq hk)
      exact .inl ⟨rest, v, hopen, hmember, isNamed_of_readAlternative hvalue⟩
  · -- in a list, the type comes first, then the algorithm, which no other field changes
    obtain ⟨b, d₁, b₁, hfirst, htype, hfields⟩ := readFieldsInOrder_cons hfields
    obtain ⟨⟨type, _⟩, hread₁, hd₁⟩ := map_eq_ok htype
    obtain ⟨rfl, rfl⟩ := Prod.mk.inj hd₁
    obtain ⟨v, d₂, b₂, hsecond, halgorithm, hfields⟩ := readFieldsInOrder_cons hfields
    obtain ⟨⟨a, _⟩, hread₂, hd₂⟩ := map_eq_ok halgorithm
    obtain ⟨rfl, rfl⟩ := Prod.mk.inj hd₂
    have hkept : draft.algorithm = some a := by
      refine readFieldsInOrder_keeps (P := fun d => d.algorithm = some a) ?_ rfl hfields
      intro field hfield d b d' b' hd hread
      rcases field_cases (List.mem_cons_of_mem _ (List.mem_cons_of_mem _ hfield)) hread with
        hsame | ⟨hname, -⟩
      · exact hsame.trans hd
      · have hnames := List.mem_map_of_mem (f := Json.Field.name) hfield
        rw [hname] at hnames
        exact absurd hnames (by decide)
    obtain rfl := Option.some.inj (hkept.symm.trans (require_eq_ok hfinish))
    exact .inr ⟨rest, b, type, _, v, hopen, hfirst, hread₁, hsecond,
      isNamed_of_readAlternative hread₂⟩

end TokenHeader

/-! ## A payload that is accepted -/

/-- All of the five claims have been read. -/
def Claims.draft (c : Claims) : Claims.Draft :=
  ⟨some c.subject, some c.email, some c.issuer, some c.issuedAt, some c.expiresAt⟩

/-- **A payload that holds claims**: it is one object, and each of the five claims has been read from a
member of it. -/
def Claims.InObject (payload : Bytes) (c : Claims) : Prop :=
  ∃ rest behind, skipSpace payload = byte '\x7b' :: rest
    ∧ readFields Claims.record.fields (rest.length + 1) true {} rest
      = .ok (.ok c.draft, behind)

theorem Claims.finish_eq_ok {d : Claims.Draft} {c : Claims} (h : d.finish = .ok c) :
    d = c.draft := by
  obtain ⟨_, h₁, h⟩ := bind_eq_ok h
  obtain ⟨_, h₂, h⟩ := bind_eq_ok h
  obtain ⟨_, h₃, h⟩ := bind_eq_ok h
  obtain ⟨_, h₄, h⟩ := bind_eq_ok h
  obtain ⟨_, h₅, h⟩ := bind_eq_ok h
  obtain rfl := Except.ok.inj h
  show (⟨d.subject, d.email, d.issuer, d.issuedAt, d.expiresAt⟩ : Claims.Draft) = _
  rw [require_eq_ok h₁, require_eq_ok h₂, require_eq_ok h₃, require_eq_ok h₄, require_eq_ok h₅]
  rfl

/-! A list of the claims in order would do for the claims themselves. For the registered claims its first
element stands where the expiry is looked for, and it is text. -/

theorem readText_eq_ok {b behind : Bytes} (h : readText b = .ok (s, behind)) :
    ∃ tail, skipSpace b = byte '"' :: tail ∧ readTextTail tail = .ok (s, behind) := by
  unfold readText at h
  split at h
  · cases h
  · rename_i c tail hb
    split at h
    · rename_i hc
      exact ⟨tail, by rw [hb, hc], h⟩
    · exact absurd h wrongType_ne_ok

theorem RegisteredClaims.readTime_text {b tail behind : Bytes}
    (hb : skipSpace b = byte '"' :: tail) (h : readTextTail tail = .ok (s, behind)) :
    RegisteredClaims.readTime b = .ok (.unreadable, behind) := by
  have hvalue : readValue 0 (byte '"' :: tail) = .ok (.text s, behind) := by
    rw [readValue]
    unfold readValueWith
    rw [skipSpace_cons rfl]
    show (readTextTail tail).map _ = _
    rw [h]
    rfl
  have hlist : byte '"' ≠ byte '[' := by decide
  have hobject : byte '"' ≠ byte '\x7b' := by decide
  unfold RegisteredClaims.readTime
  simp only [hb, hlist, hobject, if_false, hvalue]

/-- The expiry of registered claims in a list that starts with text cannot be read. -/
theorem RegisteredClaims.unreadable_list {rest b behind behind' : Bytes}
    {draft : RegisteredClaims.Draft} (hnext : nextElement true rest = .ok (true, b))
    (htext : readText b = .ok (s, behind))
    (h : readFieldsInOrder record.expectedList 0 record.fields record.empty rest
      = .ok (.ok draft, behind')) : draft.claims.expiresAt = .unreadable := by
  obtain ⟨tail, hb, htail⟩ := readText_eq_ok htext
  have htime := RegisteredClaims.readTime_text hb htail
  change readFieldsInOrder _ 0 (claim "exp" readTime _ :: _) _ rest = _ at h
  rw [readFieldsInOrder] at h
  obtain ⟨⟨more, b₁⟩, hnext', h⟩ := bind_eq_ok h
  change nextElement true rest = _ at hnext'
  rw [hnext] at hnext'
  obtain ⟨rfl, rfl⟩ := Prod.mk.inj (Except.ok.inj hnext')
  obtain ⟨⟨d₁, b₂⟩, hread, h⟩ := bind_eq_ok h
  have hread' := partFault_eq_ok hread
  change (readTime b).map _ = _ at hread'
  rw [htime] at hread'
  -- none of the other claims is the expiry
  refine readFieldsInOrder_keeps (P := fun d => d.claims.expiresAt = .unreadable) ?_ ?_ h
  · intro f hf d b d' b' hd hread
    simp only [List.mem_cons, List.not_mem_nil, or_false] at hf
    rcases hf with rfl | rfl | rfl | rfl
    all_goals
      obtain ⟨p, -, hp⟩ := map_eq_ok hread
      rw [← (Prod.mk.inj hp).1]
      exact hd
  · rw [← (Prod.mk.inj (Except.ok.inj hread')).1]

/-- A list that claims have been read from starts with text. -/
theorem Claims.text_of_list {rest behind : Bytes} {draft : Claims.Draft}
    (h : readFieldsInOrder record.expectedList 0 record.fields record.empty rest
      = .ok (.ok draft, behind)) :
    ∃ b s behind, nextElement true rest = .ok (true, b) ∧ readText b = .ok (s, behind) := by
  change readFieldsInOrder _ 0 (.text "sub" _ _ :: _) _ rest = _ at h
  rw [readFieldsInOrder] at h
  obtain ⟨⟨more, b⟩, hnext, h⟩ := bind_eq_ok h
  cases more with
  | false => cases h
  | true =>
    obtain ⟨_, hread, -⟩ := bind_eq_ok h
    have hread' := partFault_eq_ok hread
    change (readText b).map _ = _ at hread'
    obtain ⟨⟨s, behind⟩, htext, -⟩ := map_eq_ok hread'
    exact ⟨b, s, behind, hnext, htext⟩

/-- **Claims whose expiry can be read a second time stand in an object.** -/
theorem Claims.inObject {payload : Bytes} {c : Claims} {r : RegisteredClaims}
    (hclaims : Claims.parse payload = .ok c) (hregistered : RegisteredClaims.parse payload = .ok r)
    (hexpiry : r.expiresAt ≠ .unreadable) : c.InObject payload := by
  obtain ⟨_, hread⟩ := readAll_eq_ok hclaims
  obtain ⟨rest, draft, behind, hfinish, ⟨hopen, hfields⟩ | ⟨hopen, hfields⟩⟩ :=
    Record.read_eq_ok hread
  · rw [Claims.finish_eq_ok hfinish] at hfields
    exact ⟨rest, behind, hopen, hfields⟩
  · obtain ⟨b, s, _, hnext, htext⟩ := Claims.text_of_list hfields
    obtain ⟨_, hread'⟩ := readAll_eq_ok hregistered
    obtain ⟨rest', draft', _, hfinish', ⟨hopen', hfields'⟩ | ⟨hopen', hfields'⟩⟩ :=
      Record.read_eq_ok hread'
    · rw [hopen] at hopen'
      cases hopen'
    · rw [hopen] at hopen'
      obtain rfl := (List.cons.inj hopen').2
      have hr : draft'.claims = r := Except.ok.inj hfinish'
      rw [← hr] at hexpiry
      exact absurd (RegisteredClaims.unreadable_list hnext htext hfields') hexpiry

end SessionAuth
