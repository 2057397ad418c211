import SessionAuth.Encoding.Base64
import SessionAuth.Proofs.Result
import SessionAuth.Proofs.Text.Utf8
import SessionAuth.Text.Blank

/-!
Base64 is canonical: reading undoes writing, and nothing else is read.

`decode_eq_ok_iff` says both at once. Padding, unused bits that are not zero and symbols of the other
alphabet are all excluded by it, since no byte string is written with them.
-/

set_option autoImplicit false

namespace SessionAuth.Base64

variable {a : Alphabet}

/-! ## Symbols -/

/-- The symbol of a six-bit value as a byte. -/
def Alphabet.symbolByte (a : Alphabet) (n : Nat) : UInt8 := UInt8.ofNat (a.symbol n).toNat

theorem symbol_ascii {n : Nat} (h : n < 64) : (a.symbol n).toNat < 0x80 := by
  revert n
  cases a <;> decide

theorem isBlank_symbol {n : Nat} (h : n < 64) : Text.isBlank (a.symbol n) = false := by
  revert n
  cases a <;> decide

theorem symbol_ne_dot {n : Nat} (h : n < 64) : a.symbol n ≠ '.' := by
  revert n
  cases a <;> decide

theorem value?_symbolByte {n : Nat} (h : n < 64) : a.value? (a.symbolByte n) = some n := by
  revert n
  cases a <;> decide

theorem symbolByte_ne_pad {n : Nat} (h : n < 64) : a.symbolByte n ≠ pad := by
  revert n
  cases a <;> decide

/-- Only the byte of its symbol has a value. -/
theorem eq_symbolByte {b : UInt8} {n : Nat} (h : a.value? b = some n) :
    n < 64 ∧ b = a.symbolByte n := by
  have hall : ∀ m : Nat, m < 256 → ∀ n ∈ a.value? (UInt8.ofNat m),
      n < 64 ∧ UInt8.ofNat m = a.symbolByte n := by
    cases a <;> decide +kernel
  have hb := hall b.toNat b.toNat_lt n
  rw [UInt8.ofNat_toNat] at hb
  exact hb h

/-! ## What is written -/

/-- The symbols of a byte string as bytes. -/
def symbolBytes (a : Alphabet) (b : Bytes) : Bytes :=
  (encode a b).map fun c => UInt8.ofNat c.toNat

/-- Every character that is written is a symbol. -/
theorem mem_encode {b : Bytes} {c : Char} (h : c ∈ encode a b) : ∃ n < 64, c = a.symbol n := by
  induction b using encode.induct with
  | case1 => cases h
  | case2 x =>
    have hx := x.toNat_lt
    simp only [encode, List.mem_cons, List.not_mem_nil, or_false] at h
    rcases h with rfl | rfl
    · exact ⟨_, by omega, rfl⟩
    · exact ⟨_, by omega, rfl⟩
  | case3 x y =>
    have hx := x.toNat_lt
    have hy := y.toNat_lt
    simp only [encode, List.mem_cons, List.not_mem_nil, or_false] at h
    rcases h with rfl | rfl | rfl
    · exact ⟨_, by omega, rfl⟩
    · exact ⟨_, by omega, rfl⟩
    · exact ⟨_, by omega, rfl⟩
  | case4 x y z rest ih =>
    have hx := x.toNat_lt
    have hy := y.toNat_lt
    have hz := z.toNat_lt
    simp only [encode, List.mem_cons] at h
    rcases h with rfl | rfl | rfl | rfl | h
    · exact ⟨_, by omega, rfl⟩
    · exact ⟨_, by omega, rfl⟩
    · exact ⟨_, by omega, rfl⟩
    · exact ⟨_, by omega, rfl⟩
    · exact ih h

/-- None of what is written is white space. -/
theorem visible_of_mem_encode {b : Bytes} {c : Char} (h : c ∈ encode a b) :
    Text.isBlank c = false := by
  obtain ⟨n, hn, rfl⟩ := mem_encode h
  exact isBlank_symbol hn

theorem utf8_encode (b : Bytes) : Utf8.encode (encode a b) = symbolBytes a b := by
  refine Utf8.encode_ascii fun c hc => ?_
  obtain ⟨n, hn, rfl⟩ := mem_encode hc
  exact symbol_ascii hn

/-- Three bytes are four symbols. -/
theorem length_encode (b : Bytes) : (encode a b).length = (b.length * 4 + 2) / 3 := by
  induction b using encode.induct with
  | case1 => simp [encode]
  | case2 x => simp [encode]
  | case3 x y => simp [encode]
  | case4 x y z rest ih =>
    simp only [encode, List.length_cons, ih]
    omega

theorem dot_notMem_encode (b : Bytes) : '.' ∉ encode a b := by
  intro h
  obtain ⟨n, hn, heq⟩ := mem_encode h
  exact symbol_ne_dot hn heq.symm

/-- Every byte that is written has a value. -/
theorem value?_of_mem {b : Bytes} {x : UInt8} (h : x ∈ symbolBytes a b) :
    (a.value? x).isSome = true := by
  obtain ⟨c, hc, rfl⟩ := List.mem_map.mp h
  obtain ⟨n, hn, rfl⟩ := mem_encode hc
  show (a.value? (a.symbolByte n)).isSome = true
  rw [value?_symbolByte hn]
  rfl

theorem symbolBytes_cons (x y z : UInt8) (rest : Bytes) :
    symbolBytes a (x :: y :: z :: rest) = a.symbolByte (x.toNat / 4)
      :: a.symbolByte (x.toNat % 4 * 16 + y.toNat / 16)
      :: a.symbolByte (y.toNat % 16 * 4 + z.toNat / 64) :: a.symbolByte (z.toNat % 64)
      :: symbolBytes a rest := by
  simp only [symbolBytes, encode, List.map_cons, Alphabet.symbolByte]

/-! ## What is read

The values of a group and the bytes of a group determine each other. -/

/-- The bytes of one full group. -/
theorem group_values {p q r s : Nat} (hp : p < 64) (hq : q < 64) (hr : r < 64) (hs : s < 64) :
    (UInt8.ofNat (p * 4 + q / 16)).toNat = p * 4 + q / 16
      ∧ (UInt8.ofNat (q % 16 * 16 + r / 4)).toNat = q % 16 * 16 + r / 4
      ∧ (UInt8.ofNat (r % 4 * 64 + s)).toNat = r % 4 * 64 + s :=
  ⟨Utf8.toNat_ofNat (by omega), Utf8.toNat_ofNat (by omega), Utf8.toNat_ofNat (by omega)⟩

/-- Four values are those of the symbols that their bytes are written with. -/
theorem symbolBytes_group {p q r s : Nat} (hp : p < 64) (hq : q < 64) (hr : r < 64) (hs : s < 64)
    (rest : Bytes) :
    symbolBytes a (UInt8.ofNat (p * 4 + q / 16) :: UInt8.ofNat (q % 16 * 16 + r / 4)
        :: UInt8.ofNat (r % 4 * 64 + s) :: rest)
      = a.symbolByte p :: a.symbolByte q :: a.symbolByte r :: a.symbolByte s
        :: symbolBytes a rest := by
  obtain ⟨hx, hy, hz⟩ := group_values hp hq hr hs
  have h₁ : (p * 4 + q / 16) / 4 = p := by omega
  have h₂ : (p * 4 + q / 16) % 4 * 16 + (q % 16 * 16 + r / 4) / 16 = q := by omega
  have h₃ : (q % 16 * 16 + r / 4) % 16 * 4 + (r % 4 * 64 + s) / 64 = r := by omega
  have h₄ : (r % 4 * 64 + s) % 64 = s := by omega
  rw [symbolBytes_cons, hx, hy, hz, h₁, h₂, h₃, h₄]

/-- Any three bytes are those of a full group. -/
theorem exists_group (x y z : UInt8) : ∃ p < 64, ∃ q < 64, ∃ r < 64, ∃ s < 64,
    x = UInt8.ofNat (p * 4 + q / 16) ∧ y = UInt8.ofNat (q % 16 * 16 + r / 4)
      ∧ z = UInt8.ofNat (r % 4 * 64 + s) := by
  have hx := x.toNat_lt
  have hy := y.toNat_lt
  have hz := z.toNat_lt
  have h₁ : x.toNat / 4 * 4 + (x.toNat % 4 * 16 + y.toNat / 16) / 16 = x.toNat := by omega
  have h₂ : (x.toNat % 4 * 16 + y.toNat / 16) % 16 * 16 + (y.toNat % 16 * 4 + z.toNat / 64) / 4
      = y.toNat := by omega
  have h₃ : (y.toNat % 16 * 4 + z.toNat / 64) % 4 * 64 + z.toNat % 64 = z.toNat := by omega
  refine ⟨x.toNat / 4, by omega, x.toNat % 4 * 16 + y.toNat / 16, by omega,
    y.toNat % 16 * 4 + z.toNat / 64, by omega, z.toNat % 64, by omega, ?_, ?_, ?_⟩
  · rw [h₁, UInt8.ofNat_toNat]
  · rw [h₂, UInt8.ofNat_toNat]
  · rw [h₃, UInt8.ofNat_toNat]

theorem valueAt_eq_ok {offset n : Nat} {b : UInt8} (h : valueAt a offset b = .ok n) :
    n < 64 ∧ b = a.symbolByte n := by
  unfold valueAt at h
  split at h
  · rename_i hv
    cases h
    exact eq_symbolByte hv
  · cases h

theorem lastValues_padded {offset k : Nat} {l : Bytes} :
    ∀ {seen vs p}, lastValues a offset seen (some k) l = .ok (vs, p) → p = true := by
  induction l with
  | nil =>
    intro seen vs p h
    cases h
    rfl
  | cons b l ih =>
    intro seen vs p h
    rw [lastValues] at h
    split at h
    · split at h
      · cases h
      · exact ih h
    · cases h

/-- Without padding, the last group consists of symbols. -/
theorem lastValues_unpadded {offset : Nat} {l : Bytes} :
    ∀ {seen vs}, lastValues a offset seen none l = .ok (vs, false) →
      (∀ v ∈ vs, v < 64) ∧ l = vs.map a.symbolByte := by
  induction l with
  | nil =>
    intro seen vs h
    cases h
    exact ⟨nofun, rfl⟩
  | cons b l ih =>
    intro seen vs h
    rw [lastValues] at h
    split at h
    · split at h
      · cases h
      · cases lastValues_padded h
    · cases hv : a.value? b with
      | none =>
        rw [hv] at h
        cases h
      | some v =>
        rw [hv] at h
        cases hl : lastValues a offset (seen + 1) none l with
        | error flaw =>
          simp only [hl] at h
          cases h
        | ok r =>
          obtain ⟨ws, padded⟩ := r
          simp only [hl] at h
          obtain ⟨rfl, rfl⟩ := Prod.mk.inj (Except.ok.inj h)
          obtain ⟨hvs, rfl⟩ := ih hl
          obtain ⟨hlt, rfl⟩ := eq_symbolByte hv
          exact ⟨List.forall_mem_cons.mpr ⟨hlt, hvs⟩, rfl⟩

/-- The values of symbols are read off. -/
theorem lastValues_symbols {offset : Nat} {vs : List Nat} :
    ∀ {seen}, (∀ v ∈ vs, v < 64) →
      lastValues a offset seen none (vs.map a.symbolByte) = .ok (vs, false) := by
  induction vs with
  | nil =>
    intro seen _
    rfl
  | cons v vs ih =>
    intro seen h
    obtain ⟨hv, hvs⟩ := List.forall_mem_cons.mp h
    rw [List.map_cons, lastValues, if_neg (symbolByte_ne_pad hv)]
    simp only [value?_symbolByte hv, ih hvs]
    rfl

theorem lastBytes_eq_ok {offset : Nat} {input b : Bytes} {vs : List Nat} (hvs : ∀ v ∈ vs, v < 64)
    (h : lastBytes offset input vs = .ok b) : vs.map a.symbolByte = symbolBytes a b := by
  rcases vs with _ | ⟨p, _ | ⟨q, _ | ⟨r, _ | ⟨s, _ | ⟨u, vs⟩⟩⟩⟩⟩
  · cases h
  · cases h
  · obtain ⟨hp, hq⟩ : p < 64 ∧ q < 64 := ⟨hvs p (by simp), hvs q (by simp)⟩
    rw [lastBytes] at h
    split at h
    · obtain rfl := Except.ok.inj h
      have hx : (UInt8.ofNat (p * 4 + q / 16)).toNat = p * 4 + q / 16 :=
        Utf8.toNat_ofNat (by omega)
      have h₁ : (p * 4 + q / 16) / 4 = p := by omega
      have h₂ : (p * 4 + q / 16) % 4 * 16 = q := by omega
      simp only [symbolBytes, encode, hx, h₁, h₂, List.map_cons, List.map_nil,
        Alphabet.symbolByte]
    · cases h
  · obtain ⟨hp, hq, hr⟩ : p < 64 ∧ q < 64 ∧ r < 64 :=
      ⟨hvs p (by simp), hvs q (by simp), hvs r (by simp)⟩
    rw [lastBytes] at h
    split at h
    · obtain rfl := Except.ok.inj h
      obtain ⟨hx, hy, -⟩ := group_values hp hq hr (by omega : 0 < 64)
      have h₁ : (p * 4 + q / 16) / 4 = p := by omega
      have h₂ : (p * 4 + q / 16) % 4 * 16 + (q % 16 * 16 + r / 4) / 16 = q := by omega
      have h₃ : (q % 16 * 16 + r / 4) % 16 * 4 = r := by omega
      simp only [symbolBytes, encode, hx, hy, h₁, h₂, h₃, List.map_cons, List.map_nil,
        Alphabet.symbolByte]
    · cases h
  · obtain rfl := Except.ok.inj h
    exact (symbolBytes_group (hvs p (by simp)) (hvs q (by simp)) (hvs r (by simp))
      (hvs s (by simp)) []).symm
  · cases h

/-- The last group is read as the bytes that it is written for. -/
theorem decodeLast_eq_ok {offset : Nat} {input b : Bytes} (h : decodeLast a offset input = .ok b) :
    input = symbolBytes a b := by
  unfold decodeLast at h
  split at h
  · cases h
    exact List.isEmpty_iff.mp ‹_›
  cases hl : lastValues a offset 0 none input with
  | error flaw =>
    rw [hl] at h
    cases h
  | ok r =>
    obtain ⟨vs, padded⟩ := r
    rw [hl] at h
    change (if vs.length < 2 then _ else if padded then _ else lastBytes offset input vs) = _ at h
    split at h
    · cases h
    cases padded with
    | true => cases h
    | false =>
      obtain ⟨hvs, hinput⟩ := lastValues_unpadded hl
      rw [hinput]
      exact lastBytes_eq_ok hvs h

theorem decodeFrom_eq_ok {offset : Nat} {input b : Bytes} (h : decodeFrom a offset input = .ok b) :
    input = symbolBytes a b := by
  induction offset, input using decodeFrom.induct generalizing b with
  | case1 offset b₀ b₁ b₂ b₃ b₄ rest ih =>
    rw [decodeFrom] at h
    obtain ⟨p, h₀, h⟩ := bind_eq_ok h
    obtain ⟨q, h₁, h⟩ := bind_eq_ok h
    obtain ⟨r, h₂, h⟩ := bind_eq_ok h
    obtain ⟨s, h₃, h⟩ := bind_eq_ok h
    obtain ⟨tail, htail, h⟩ := bind_eq_ok h
    obtain rfl := Except.ok.inj h
    obtain ⟨hp, rfl⟩ := valueAt_eq_ok h₀
    obtain ⟨hq, rfl⟩ := valueAt_eq_ok h₁
    obtain ⟨hr, rfl⟩ := valueAt_eq_ok h₂
    obtain ⟨hs, rfl⟩ := valueAt_eq_ok h₃
    rw [symbolBytes_group hp hq hr hs, ← ih htail]
  | case2 offset input hshort =>
    rw [decodeFrom] at h
    · exact decodeLast_eq_ok h
    · exact hshort

/-! ## Reading back -/

theorem decodeLast_values {offset : Nat} {vs : List Nat} (hvs : ∀ v ∈ vs, v < 64)
    (hlength : 2 ≤ vs.length) :
    decodeLast a offset (vs.map a.symbolByte)
      = lastBytes offset (vs.map a.symbolByte) vs := by
  unfold decodeLast
  rw [if_neg (by cases vs <;> simp_all), lastValues_symbols hvs]
  show (if vs.length < 2 then _ else if false then _ else _) = _
  rw [if_neg (by omega)]
  rfl

theorem valueAt_symbol {offset n : Nat} (h : n < 64) :
    valueAt a offset (a.symbolByte n) = .ok n := by
  unfold valueAt
  rw [value?_symbolByte h]

theorem decodeFrom_symbolBytes (offset : Nat) (b : Bytes) :
    decodeFrom a offset (symbolBytes a b) = .ok b := by
  induction b using encode.induct generalizing offset with
  | case1 => rfl
  | case2 x =>
    have hx := x.toNat_lt
    have hvs : ∀ v ∈ [x.toNat / 4, x.toNat % 4 * 16], v < 64 := by
      simp only [List.mem_cons, List.not_mem_nil, or_false]
      rintro v (rfl | rfl) <;> omega
    show decodeLast a offset ([x.toNat / 4, x.toNat % 4 * 16].map a.symbolByte) = _
    rw [decodeLast_values hvs (by simp), lastBytes, if_pos (by omega)]
    have h : x.toNat / 4 * 4 + x.toNat % 4 * 16 / 16 = x.toNat := by omega
    rw [h, UInt8.ofNat_toNat]
  | case3 x y =>
    have hx := x.toNat_lt
    have hy := y.toNat_lt
    have hvs : ∀ v ∈ [x.toNat / 4, x.toNat % 4 * 16 + y.toNat / 16, y.toNat % 16 * 4], v < 64 := by
      simp only [List.mem_cons, List.not_mem_nil, or_false]
      rintro v (rfl | rfl | rfl) <;> omega
    show decodeLast a offset
      ([x.toNat / 4, x.toNat % 4 * 16 + y.toNat / 16, y.toNat % 16 * 4].map a.symbolByte) = _
    rw [decodeLast_values hvs (by simp), lastBytes, if_pos (by omega)]
    have h₁ : x.toNat / 4 * 4 + (x.toNat % 4 * 16 + y.toNat / 16) / 16 = x.toNat := by omega
    have h₂ : (x.toNat % 4 * 16 + y.toNat / 16) % 16 * 16 + y.toNat % 16 * 4 / 4 = y.toNat := by
      omega
    rw [h₁, h₂, UInt8.ofNat_toNat, UInt8.ofNat_toNat]
  | case4 x y z rest ih =>
    obtain ⟨p, hp, q, hq, r, hr, s, hs, rfl, rfl, rfl⟩ := exists_group x y z
    rw [symbolBytes_group hp hq hr hs]
    cases hrest : symbolBytes a rest with
    | nil =>
      -- nothing follows, so that the group is the last one
      have hempty : rest = [] := by
        have h := ih 0
        rw [hrest] at h
        exact (Except.ok.inj h).symm
      have hvs : ∀ v ∈ [p, q, r, s], v < 64 := by simp [hp, hq, hr, hs]
      show decodeLast a offset ([p, q, r, s].map a.symbolByte) = _
      rw [decodeLast_values hvs (by simp), lastBytes, hempty]
    | cons b₄ behind =>
      have htail := ih (offset + 4)
      rw [hrest] at htail
      rw [decodeFrom, valueAt_symbol hp, valueAt_symbol hq, valueAt_symbol hr, valueAt_symbol hs,
        htail]
      rfl

/-- **Base64 is canonical.** A text is read as a byte string if and only if it is the text that is
written for it. -/
theorem decode_eq_ok_iff {input b : Bytes} :
    decode a input = .ok b ↔ input = symbolBytes a b := by
  constructor
  · intro h
    unfold decode at h
    split at h
    · cases h
    · exact decodeFrom_eq_ok h
  · rintro rfl
    have hstray : strayLast a (symbolBytes a b) = none := by
      unfold strayLast
      split
      · rw [Option.filter_eq_none_iff]
        intro x hx
        simp [Option.isNone_eq_false_iff.mpr (value?_of_mem (List.mem_of_getLast? hx))]
      · rfl
    unfold decode
    rw [hstray]
    exact decodeFrom_symbolBytes 0 b

theorem decode_encode (b : Bytes) : decode a (Utf8.encode (encode a b)) = .ok b := by
  rw [utf8_encode]
  exact decode_eq_ok_iff.mpr rfl

end SessionAuth.Base64
