import SessionAuth.Proofs.Encoding.Base64
import SessionAuth.Proofs.Result
import SessionAuth.Proofs.Token.Claims
import SessionAuth.Token.Signer

/-!
Tokens: those that are signed read back, and nothing else is accepted.
-/

set_option autoImplicit false

namespace SessionAuth.TokenSigner

open Json (Value)

variable {s : TokenSigner} {now : Instant} {c : Claims} {token : String}

/-! ## Parts -/

theorem splitAtLastDot?_eq_none_iff {l : List Char} : splitAtLastDot? l = none ↔ '.' ∉ l := by
  induction l with
  | nil => exact ⟨fun _ => List.not_mem_nil, fun _ => rfl⟩
  | cons d l ih =>
    rw [splitAtLastDot?, List.mem_cons, not_or, ← ih]
    cases splitAtLastDot? l with
    | some p => exact ⟨nofun, fun h => nomatch h.2⟩
    | none =>
      show (if d = '.' then some ([], l) else none) = none ↔ _
      by_cases hd : d = '.'
      · rw [if_pos hd]
        exact ⟨nofun, fun h => absurd hd.symm h.1⟩
      · rw [if_neg hd]
        exact ⟨fun _ => ⟨Ne.symm hd, rfl⟩, fun _ => rfl⟩

theorem splitAtLastDot?_append {before behind : List Char} (h : '.' ∉ behind) :
    splitAtLastDot? (before ++ '.' :: behind) = some (before, behind) := by
  induction before with
  | nil =>
    rw [List.nil_append, splitAtLastDot?, splitAtLastDot?_eq_none_iff.mpr h]
    rfl
  | cons d before ih => rw [List.cons_append, splitAtLastDot?, ih]

theorem splitAtLastDot?_eq_some {l before behind : List Char}
    (h : splitAtLastDot? l = some (before, behind)) :
    l = before ++ '.' :: behind ∧ '.' ∉ behind := by
  induction l generalizing before with
  | nil => cases h
  | cons d l ih =>
    rw [splitAtLastDot?] at h
    cases hl : splitAtLastDot? l with
    | some p =>
      obtain ⟨before', behind'⟩ := p
      rw [hl] at h
      obtain ⟨rfl, rfl⟩ := Prod.mk.inj (Option.some.inj h)
      obtain ⟨rfl, hdot⟩ := ih hl
      exact ⟨rfl, hdot⟩
    | none =>
      rw [hl] at h
      change (if d = '.' then some ([], l) else none) = _ at h
      by_cases hd : d = '.'
      · rw [if_pos hd] at h
        obtain ⟨rfl, rfl⟩ := Prod.mk.inj (Option.some.inj h)
        exact ⟨by rw [hd]; rfl, splitAtLastDot?_eq_none_iff.mp hl⟩
      · rw [if_neg hd] at h
        cases h

/-- Equal texts have their first dots at the same place. -/
theorem part_at_first_dot {before before' behind behind' : List Char} (h : '.' ∉ before)
    (h' : '.' ∉ before') (heq : before ++ '.' :: behind = before' ++ '.' :: behind') :
    before = before' ∧ behind = behind' := by
  induction before generalizing before' with
  | nil =>
    cases before' with
    | nil => exact ⟨rfl, (List.cons.inj heq).2⟩
    | cons d before' => exact absurd ((List.cons.inj heq).1 ▸ List.mem_cons_self) h'
  | cons d before ih =>
    cases before' with
    | nil => exact absurd ((List.cons.inj heq).1 ▸ List.mem_cons_self) h
    | cons d' before' =>
      obtain ⟨rfl, hrest⟩ := List.cons.inj heq
      obtain ⟨hbefore, hbehind⟩ := ih (fun hd => h (List.mem_cons_of_mem _ hd))
        (fun hd => h' (List.mem_cons_of_mem _ hd)) hrest
      exact ⟨by rw [hbefore], hbehind⟩

theorem dot_notMem_part (b : Bytes) : '.' ∉ part b := Base64.dot_notMem_encode b

theorem partBytes_part (b : Bytes) : partBytes (part b) = .ok b := by
  unfold partBytes part
  rw [Base64.decode_encode]
  rfl

/-- A part that can be read is the one that is written. -/
theorem partBytes_eq_ok {l : List Char} {b : Bytes} (h : partBytes l = .ok b) : l = part b := by
  have hbytes := Base64.decode_eq_ok_iff.mp (mapError_eq_ok h)
  rw [← Base64.utf8_encode] at hbytes
  exact Utf8.encode_injective hbytes

/-! ## A token that has been signed -/

/-- Whether claims are accepted whose registered ones are known. -/
def accept (s : TokenSigner) (now : Instant) (c : Claims) (r : RegisteredClaims) :
    Except Flaw Claims :=
  checkRegistered s.issuer now r >>= fun _ =>
    if c.issuer ≠ s.issuer ∨ c.isExpired now.seconds then .error .stale else .ok c

theorem readPart_of_ok {α : Type} {read : Bytes → Except Json.Fault α} {input : Bytes} {a : α}
    (h : read input = .ok a) : readPart read input = .ok a := by
  unfold readPart
  rw [h]
  rfl

/-- Where the header and the signature are as they are written, the claims decide. -/
theorem parse_signed {header payload : Bytes} {r : RegisteredClaims}
    (htoken : token.toList = part header ++ '.' :: part payload
      ++ '.' :: s.signature (part header ++ '.' :: part payload))
    (hheader : TokenHeader.parse header = .ok .hs256) (hclaims : Claims.parse payload = .ok c)
    (hregistered : RegisteredClaims.parse payload = .ok r) :
    s.parse now token = s.accept now c r := by
  have hsignature : '.' ∉ s.signature (part header ++ '.' :: part payload) := dot_notMem_part _
  unfold parse accept
  rw [htoken, splitAtLastDot?_append hsignature]
  simp only [splitAtLastDot?_append (dot_notMem_part payload), partBytes_part, ok_bind,
    readPart_of_ok hheader, readPart_of_ok hclaims, readPart_of_ok hregistered, ne_eq, not_true_eq_false, if_false]
  refine congrArg _ (funext fun _ => ?_)
  split
  · rfl
  · rfl

theorem parse_encode (secret : Bytes) (signing issuer : String) (now : Instant) (c : Claims)
    (hissued : Decimal.isSignedWord c.issuedAt = true)
    (hexpires : Decimal.isSignedWord c.expiresAt = true) :
    parse ⟨secret, issuer⟩ now (encode ⟨secret, signing⟩ c)
      = accept ⟨secret, issuer⟩ now c (.ofClaims c) :=
  parse_signed String.toList_ofList TokenHeader.parse_issued
    (Claims.parse_toJson c hissued hexpires) (RegisteredClaims.parse_toJson c hissued hexpires)

theorem seconds_nonneg (h : Instant.epoch ≤ now) : 0 ≤ now.seconds :=
  Int.ediv_nonneg (Instant.le_def.mp h) (by decide)

theorem not_lt_epoch (h : Instant.epoch ≤ now) : ¬now < Instant.epoch := by
  rw [Instant.lt_def]
  exact Int.not_lt.mpr (Instant.le_def.mp h)

/-- The clock is refused only where it reads a time before 1970. -/
theorem checkRegistered_ne_clock {issuer : String} {r : RegisteredClaims}
    (hclock : Instant.epoch ≤ now) : checkRegistered issuer now r ≠ .error .clock := by
  intro h
  unfold checkRegistered at h
  simp only [not_lt_epoch hclock, if_false] at h
  repeat' split at h
  all_goals cases h

/-- So no token is refused because of the clock from then on. -/
theorem parse_ne_clock (hclock : Instant.epoch ≤ now) : s.parse now token ≠ .error .clock := by
  have hpart : ∀ {l : List Char}, partBytes l ≠ .error .clock := by
    intro l h
    obtain ⟨_, -, h⟩ := mapError_eq_error h
    cases h
  have hread : ∀ {α : Type} {read : Bytes → Except Json.Fault α} {input : Bytes},
      readPart read input ≠ .error .clock := by
    intro _ _ _ h
    obtain ⟨_, -, h⟩ := mapError_eq_error h
    cases h
  intro h
  unfold parse at h
  split at h
  case h_2 => cases h
  split at h
  case h_2 => cases h
  rename_i message signature _ _ header payload _
  rcases bind_eq_error h with h | ⟨_, -, h⟩
  · exact hpart h
  rcases bind_eq_error h with h | ⟨algorithm, -, h⟩
  · exact hread h
  by_cases hhs256 : algorithm ≠ .hs256
  · rw [if_pos hhs256] at h
    cases h
  rw [if_neg hhs256] at h
  by_cases hsignature : signature ≠ s.signature message
  · simp only [if_pos hsignature] at h
    cases h
  simp only [if_neg hsignature] at h
  rcases bind_eq_error h with h | ⟨_, -, h⟩
  · exact hpart h
  rcases bind_eq_error h with h | ⟨_, -, h⟩
  · exact hread h
  rcases bind_eq_error h with h | ⟨_, -, h⟩
  · exact hread h
  rcases bind_eq_error h with h | ⟨_, -, h⟩
  · exact checkRegistered_ne_clock hclock h
  · split at h
    · cases h
    · cases h

theorem accept_ok (hclock : Instant.epoch ≤ now) (hissuer : c.issuer = s.issuer)
    (hexpiry : now.seconds < c.expiresAt) : s.accept now c (.ofClaims c) = .ok c := by
  have hseconds := seconds_nonneg hclock
  have htime : (RegisteredClaims.ofClaims c).expiresAt = .present c.expiresAt.toNat :=
    if_pos (by omega)
  have hcheck : checkRegistered s.issuer now (.ofClaims c) = .ok () := by
    unfold checkRegistered
    rw [htime]
    have hexpiry' : ¬(c.expiresAt.toNat : Int) < now.seconds := by omega
    have hmatches : issuerMatches s.issuer (RegisteredClaims.ofClaims c).issuer = true := by
      rw [← hissuer]
      exact beq_self_eq_true c.issuer
    simp only [not_lt_epoch hclock, hexpiry', hmatches, if_false]
    rfl
  have hfresh : c.isExpired now.seconds = false := decide_eq_false (by omega)
  unfold accept
  rw [hcheck, ok_bind, hissuer, hfresh, if_neg (by simp)]

theorem accept_error (hclock : Instant.epoch ≤ now)
    (h : ¬(c.issuer = s.issuer ∧ now.seconds < c.expiresAt)) :
    ∃ flaw, s.accept now c (.ofClaims c) = .error flaw ∧ flaw ≠ .clock := by
  have hstale : c.issuer ≠ s.issuer ∨ c.isExpired now.seconds = true := by
    by_cases hissuer : c.issuer = s.issuer
    · exact Or.inr (decide_eq_true (Int.not_lt.mp fun hexpiry => h ⟨hissuer, hexpiry⟩))
    · exact Or.inl hissuer
  unfold accept
  cases hcheck : checkRegistered s.issuer now (.ofClaims c) with
  | ok _ =>
    rw [ok_bind, if_pos hstale]
    exact ⟨.stale, rfl, nofun⟩
  | error flaw =>
    refine ⟨flaw, rfl, ?_⟩
    rintro rfl
    exact checkRegistered_ne_clock hclock hcheck

/-- **Signed tokens read back exactly.** A token that has been written for claims is accepted by every
signer with the same secret, as the very same claims, if the issuer of the claims is the one of that
signer and their expiry lies behind the whole second of the clock; and it is refused otherwise. The
clock reads no time before 1970, with which no expiry could be compared. -/
theorem parse_encode_exact (secret : Bytes) (signing issuer : String) (now : Instant) (c : Claims)
    (hclock : Instant.epoch ≤ now) (hissued : Decimal.isSignedWord c.issuedAt = true)
    (hexpires : Decimal.isSignedWord c.expiresAt = true) :
    (c.issuer = issuer ∧ now.seconds < c.expiresAt →
        parse ⟨secret, issuer⟩ now (encode ⟨secret, signing⟩ c) = .ok c)
      ∧ (¬(c.issuer = issuer ∧ now.seconds < c.expiresAt) →
        ∃ flaw, parse ⟨secret, issuer⟩ now (encode ⟨secret, signing⟩ c) = .error flaw
          ∧ flaw ≠ .clock) := by
  rw [parse_encode secret signing issuer now c hissued hexpires]
  exact ⟨fun h => accept_ok hclock h.1 h.2, accept_error (s := ⟨secret, issuer⟩) hclock⟩

/-- Claims with a name in several scripts, which were issued before 1970 and expire in two seconds. -/
def shortClaims : Claims := ⟨"zoë \"ζ\"", "a@example.com", "issuer", -5, 3⟩

theorem parse_encode_exact_short :
    Instant.epoch ≤ .ofSeconds 1 ∧ Decimal.isSignedWord shortClaims.issuedAt = true
      ∧ Decimal.isSignedWord shortClaims.expiresAt = true
      ∧ parse ⟨[1, 2], "issuer"⟩ (.ofSeconds 1) (encode ⟨[1, 2], "another"⟩ shortClaims)
        = .ok shortClaims
      ∧ ∃ flaw, parse ⟨[1, 2], "issuer"⟩ (.ofSeconds 3) (encode ⟨[1, 2], "another"⟩ shortClaims)
        = .error flaw := by
  have hearly : Instant.epoch ≤ .ofSeconds 1 := by decide
  have hlate : Instant.epoch ≤ .ofSeconds 3 := by decide
  have haccepted := (parse_encode_exact [1, 2] "another" "issuer" (.ofSeconds 1) shortClaims hearly
    (by decide) (by decide)).1 (by decide)
  obtain ⟨flaw, hflaw, -⟩ := (parse_encode_exact [1, 2] "another" "issuer" (.ofSeconds 3)
    shortClaims hlate (by decide) (by decide)).2 (by decide)
  exact ⟨hearly, by decide, by decide, haccepted, flaw, hflaw⟩

/-! ## A token that is accepted -/

theorem accept_eq_ok {c' : Claims} {r : RegisteredClaims} (h : s.accept now c r = .ok c') :
    checkRegistered s.issuer now r = .ok () ∧ c' = c ∧ c.issuer = s.issuer
      ∧ now.seconds < c.expiresAt := by
  obtain ⟨_, hcheck, h⟩ := bind_eq_ok h
  split at h
  · cases h
  · rename_i hfresh
    rw [not_or, Decidable.not_not] at hfresh
    refine ⟨hcheck, (Except.ok.inj h).symm, hfresh.1, ?_⟩
    exact Int.not_le.mp fun hle => hfresh.2 (decide_eq_true hle)

theorem present_of_checkRegistered {issuer : String} {r : RegisteredClaims}
    (h : checkRegistered issuer now r = .ok ()) : r.expiresAt ≠ .unreadable := by
  intro hr
  unfold checkRegistered at h
  rw [hr] at h
  cases h

/-- A token that is accepted has been put together from the parts that it is taken apart into. -/
theorem parse_eq_ok (h : s.parse now token = .ok c) :
    ∃ header payload r, token.toList = part header ++ '.' :: part payload
        ++ '.' :: s.signature (part header ++ '.' :: part payload)
      ∧ TokenHeader.parse header = .ok .hs256 ∧ Claims.parse payload = .ok c
      ∧ RegisteredClaims.parse payload = .ok r ∧ s.accept now c r = .ok c := by
  unfold parse at h
  split at h
  case h_2 => cases h
  rename_i message signature htoken
  split at h
  case h_2 => cases h
  rename_i header payload hmessage
  obtain ⟨htoken, -⟩ := splitAtLastDot?_eq_some htoken
  obtain ⟨rfl, -⟩ := splitAtLastDot?_eq_some hmessage
  obtain ⟨headerBytes, hheader, h⟩ := bind_eq_ok h
  obtain ⟨algorithm, halgorithm, h⟩ := bind_eq_ok h
  by_cases hhs256 : algorithm ≠ .hs256
  · rw [if_pos hhs256] at h
    cases h
  rw [if_neg hhs256] at h
  by_cases hsignature : signature ≠ s.signature (header ++ '.' :: payload)
  · simp only [if_pos hsignature] at h
    cases h
  simp only [if_neg hsignature] at h
  obtain ⟨payloadBytes, hpayload, h⟩ := bind_eq_ok h
  obtain ⟨c', hclaims, h⟩ := bind_eq_ok h
  obtain ⟨r, hregistered, h⟩ := bind_eq_ok h
  have haccept : s.accept now c' r = .ok c := by
    obtain ⟨_, hcheck, h⟩ := bind_eq_ok h
    unfold accept
    rw [hcheck, ok_bind]
    split at h
    · cases h
    · rw [if_neg ‹_›]
      exact h
  obtain ⟨-, rfl, -⟩ := accept_eq_ok haccept
  rw [Decidable.not_not] at hhs256 hsignature
  rw [hsignature, partBytes_eq_ok hheader, partBytes_eq_ok hpayload] at htoken
  rw [hhs256] at halgorithm
  exact ⟨headerBytes, payloadBytes, r, htoken, mapError_eq_ok halgorithm, mapError_eq_ok hclaims,
    mapError_eq_ok hregistered, haccept⟩

/-- **Nothing unsigned, foreign or stale is accepted.** An accepted token consists of exactly three
parts between dots. The first one is the Base64 of a header that names the one algorithm, HS256, the last
one is the signature of the first two, and the claims stand in the middle one, in an object that has
all five of them; their issuer is the expected one, and they expire behind the whole second of the
clock. An accepted token is therefore determined by its first two parts, whenever it is looked at. -/
theorem parse_accepts_only (s : TokenSigner) (now : Instant) (token : String) (c : Claims)
    (haccepted : s.parse now token = .ok c) :
    ∃ header payload signature : List Char,
      token.toList = header ++ '.' :: payload ++ '.' :: signature
      ∧ ('.' ∉ header ∧ '.' ∉ payload ∧ '.' ∉ signature)
      ∧ (∃ b, header = Base64.encode .urlSafe b ∧ TokenHeader.parse b = .ok .hs256
        ∧ TokenHeader.Names "HS256" b)
      ∧ signature = Base64.encode .urlSafe
          (Hmac.sha256 s.secret (Utf8.encode (header ++ '.' :: payload)))
      ∧ (∃ b, payload = Base64.encode .urlSafe b ∧ Claims.parse b = .ok c ∧ c.InObject b)
      ∧ c.issuer = s.issuer ∧ now.seconds < c.expiresAt
      ∧ ∀ now' token' c' signature', s.parse now' token' = .ok c' →
          token'.toList = header ++ '.' :: payload ++ '.' :: signature' → token' = token := by
  obtain ⟨b, b', r, htoken, hheader, hclaims, hregistered, haccept⟩ := parse_eq_ok haccepted
  obtain ⟨hcheck, -, hissuer, hexpiry⟩ := accept_eq_ok haccept
  have hobject := Claims.inObject hclaims hregistered (present_of_checkRegistered hcheck)
  refine ⟨part b, part b', s.signature (part b ++ '.' :: part b'), htoken,
    ⟨dot_notMem_part b, dot_notMem_part b', dot_notMem_part _⟩,
    ⟨b, rfl, hheader, TokenHeader.names_of_parse hheader⟩, rfl,
    ⟨b', rfl, hclaims, hobject⟩, hissuer, hexpiry, ?_⟩
  intro now' token' c' signature' haccepted' htoken'
  obtain ⟨d, d', _, hsigned, -⟩ := parse_eq_ok haccepted'
  -- the dots of both texts stand at the same places, so that the parts are the same
  have hsplit := hsigned.symm.trans htoken'
  rw [List.append_assoc, List.append_assoc, List.cons_append, List.cons_append] at hsplit
  obtain ⟨hheader', hsplit⟩ := part_at_first_dot (dot_notMem_part d) (dot_notMem_part b) hsplit
  obtain ⟨hpayload', -⟩ := part_at_first_dot (dot_notMem_part d') (dot_notMem_part b') hsplit
  rw [hheader', hpayload', ← htoken] at hsigned
  exact String.toList_inj.mp hsigned

theorem parse_accepts_only_short :
    parse ⟨[1, 2], "issuer"⟩ (.ofSeconds 1) (encode ⟨[1, 2], "issuer"⟩ shortClaims)
        = .ok shortClaims
      ∧ shortClaims.issuer = "issuer" ∧ (Instant.ofSeconds 1).seconds < shortClaims.expiresAt := by
  have haccepted : parse ⟨[1, 2], "issuer"⟩ (.ofSeconds 1)
      (encode ⟨[1, 2], "issuer"⟩ shortClaims) = .ok shortClaims := by
    rw [parse_encode [1, 2] "issuer" "issuer" (.ofSeconds 1) shortClaims (by decide) (by decide)]
    exact accept_ok (by decide) rfl (by decide)
  obtain ⟨_, _, _, -, -, -, -, -, hissuer, hexpiry, -⟩ :=
    parse_accepts_only ⟨[1, 2], "issuer"⟩ (.ofSeconds 1) _ shortClaims haccepted
  exact ⟨haccepted, hissuer, hexpiry⟩

end SessionAuth.TokenSigner
