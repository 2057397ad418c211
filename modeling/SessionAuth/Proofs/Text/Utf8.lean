import SessionAuth.Text.Utf8

/-!
Text in UTF-8 reads back.

The length of a character's form is read off its first byte: `char1?` to `char4?` exclude each other,
so that a form of several bytes falls through the readers of the shorter ones.
-/

set_option autoImplicit false

namespace SessionAuth.Utf8

/-! ## Single characters -/

theorem toNat_ofNat {n : Nat} (h : n < 256) : (UInt8.ofNat n).toNat = n := by
  rw [UInt8.toNat_ofNat']
  omega

theorem continued?_continuation (n : Nat) : continued? (continuation n) = some (n % 64) := by
  have hbyte : (continuation n).toNat = 128 + n % 64 := toNat_ofNat (by omega)
  unfold continued?
  rw [hbyte, if_pos (by omega), Nat.add_sub_cancel_left]

theorem char1?_eq_none {b₀ : UInt8} (h : 0x80 ≤ b₀.toNat) : char1? b₀ = none := by
  unfold char1?
  rw [if_neg (by omega)]

theorem char2?_eq_none {b₀ b₁ : UInt8} (h : 0xe0 ≤ b₀.toNat) : char2? b₀ b₁ = none := by
  unfold char2?
  cases continued? b₁ with
  | none => rfl
  | some x =>
    show (if _ then some _ else none) = none
    rw [if_neg (by omega)]

theorem char3?_eq_none {b₀ b₁ b₂ : UInt8} (h : 0xf0 ≤ b₀.toNat) : char3? b₀ b₁ b₂ = none := by
  unfold char3?
  cases continued? b₁ with
  | none => rfl
  | some x =>
    cases continued? b₂ with
    | none => rfl
    | some y =>
      show (if _ then some _ else none) = none
      rw [if_neg (by omega)]

theorem char1?_lead {n : Nat} (h : n < 0x80) : char1? (UInt8.ofNat n) = some (Char.ofNat n) := by
  unfold char1?
  rw [toNat_ofNat (by omega), if_pos h]

theorem char2?_lead {n : Nat} (h : 0x80 ≤ n) (h' : n < 0x800) :
    char2? (UInt8.ofNat (0xc0 + n / 64)) (continuation n) = some (Char.ofNat n) := by
  unfold char2?
  rw [continued?_continuation, toNat_ofNat (by omega)]
  show (if _ then some (Char.ofNat ((0xc0 + n / 64 - 0xc0) * 64 + n % 64)) else none) = _
  rw [if_pos (by omega)]
  congr 2
  omega

theorem char3?_lead {n : Nat} (h : 0x800 ≤ n) (h' : n < 0x10000)
    (hs : ¬(0xd800 ≤ n ∧ n < 0xe000)) :
    char3? (UInt8.ofNat (0xe0 + n / 4096)) (continuation (n / 64)) (continuation n)
      = some (Char.ofNat n) := by
  have hn : (0xe0 + n / 4096 - 0xe0) * 4096 + n / 64 % 64 * 64 + n % 64 = n := by omega
  unfold char3?
  rw [continued?_continuation, continued?_continuation, toNat_ofNat (by omega)]
  show (if _ ∧ _ ∧ 0x800 ≤ _ ∧ ¬(0xd800 ≤ _ ∧ _ < 0xe000) then some (Char.ofNat _) else none) = _
  rw [hn, if_pos (by omega)]

theorem char4?_lead {n : Nat} (h : 0x10000 ≤ n) (h' : n < 0x110000) :
    char4? (UInt8.ofNat (0xf0 + n / 262144)) (continuation (n / 4096)) (continuation (n / 64))
      (continuation n) = some (Char.ofNat n) := by
  have hn : (0xf0 + n / 262144 - 0xf0) * 262144 + n / 4096 % 64 * 4096 + n / 64 % 64 * 64 + n % 64
      = n := by omega
  unfold char4?
  rw [continued?_continuation, continued?_continuation, continued?_continuation,
    toNat_ofNat (by omega)]
  show (if _ ∧ _ ∧ 0x10000 ≤ _ ∧ _ < 0x110000 then some (Char.ofNat _) else none) = _
  rw [hn, if_pos (by omega)]

/-! ## Texts -/

section Front

variable {b₀ b₁ b₂ b₃ : UInt8} {c : Char} (rest : Bytes)

theorem decode?_char1 (h : char1? b₀ = some c) :
    decode? (b₀ :: rest) = (decode? rest).map (c :: ·) := by
  rw [decode?.eq_def]
  simp only [h]

theorem decode?_char2 (h₁ : char1? b₀ = none) (h : char2? b₀ b₁ = some c) :
    decode? (b₀ :: b₁ :: rest) = (decode? rest).map (c :: ·) := by
  rw [decode?.eq_def]
  simp only [h₁, h]

theorem decode?_char3 (h₁ : char1? b₀ = none) (h₂ : char2? b₀ b₁ = none)
    (h : char3? b₀ b₁ b₂ = some c) :
    decode? (b₀ :: b₁ :: b₂ :: rest) = (decode? rest).map (c :: ·) := by
  rw [decode?.eq_def]
  simp only [h₁, h₂, h]

theorem decode?_char4 (h₁ : char1? b₀ = none) (h₂ : char2? b₀ b₁ = none)
    (h₃ : char3? b₀ b₁ b₂ = none) (h : char4? b₀ b₁ b₂ b₃ = some c) :
    decode? (b₀ :: b₁ :: b₂ :: b₃ :: rest) = (decode? rest).map (c :: ·) := by
  rw [decode?.eq_def]
  simp only [h₁, h₂, h₃, h]

end Front

/-- A character is read off the front. -/
theorem decode?_encodeChar (c : Char) (rest : Bytes) :
    decode? (encodeChar c ++ rest) = (decode? rest).map (c :: ·) := by
  have hc : Char.ofNat c.toNat = c := Char.ofNat_toNat c
  have hvalid : c.toNat < 0xd800 ∨ 0xdfff < c.toNat ∧ c.toNat < 0x110000 := c.valid
  generalize hn : c.toNat = n at hc hvalid
  unfold encodeChar
  rw [hn]
  by_cases h1 : n < 0x80
  · rw [if_pos h1]
    exact decode?_char1 rest (hc ▸ char1?_lead h1)
  rw [if_neg h1]
  by_cases h2 : n < 0x800
  · rw [if_pos h2]
    have hlead : (UInt8.ofNat (0xc0 + n / 64)).toNat = 0xc0 + n / 64 := toNat_ofNat (by omega)
    exact decode?_char2 rest (char1?_eq_none (by omega)) (hc ▸ char2?_lead (by omega) h2)
  rw [if_neg h2]
  by_cases h3 : n < 0x10000
  · rw [if_pos h3]
    have hlead : (UInt8.ofNat (0xe0 + n / 4096)).toNat = 0xe0 + n / 4096 :=
      toNat_ofNat (by omega)
    exact decode?_char3 rest (char1?_eq_none (by omega)) (char2?_eq_none (by omega))
      (hc ▸ char3?_lead (by omega) h3 (by omega))
  · rw [if_neg h3]
    have hlead : (UInt8.ofNat (0xf0 + n / 262144)).toNat = 0xf0 + n / 262144 :=
      toNat_ofNat (by omega)
    exact decode?_char4 rest (char1?_eq_none (by omega)) (char2?_eq_none (by omega))
      (char3?_eq_none (by omega)) (hc ▸ char4?_lead (by omega) (by omega))

@[simp] theorem encode_nil : encode [] = [] := rfl

theorem encode_cons (c : Char) (l : List Char) : encode (c :: l) = encodeChar c ++ encode l := by
  rw [encode, List.flatMap_cons]
  rfl

theorem encode_append (l m : List Char) : encode (l ++ m) = encode l ++ encode m :=
  List.flatMap_append

/-- **Text in UTF-8 reads back.** -/
theorem decode?_encode (l : List Char) : decode? (encode l) = some l := by
  induction l with
  | nil => rfl
  | cons c l ih => rw [encode_cons, decode?_encodeChar, ih, Option.map_some]

theorem encode_injective : Function.Injective encode := by
  intro l m h
  have hread := congrArg decode? h
  rw [decode?_encode, decode?_encode] at hread
  exact Option.some.inj hread

theorem toString?_encode (s : String) : toString? (encode s.toList) = some s := by
  rw [toString?, decode?_encode, Option.map_some, String.ofList_toList]

/-! ## Characters of one byte -/

theorem encodeChar_ascii {c : Char} (h : c.toNat < 0x80) :
    encodeChar c = [UInt8.ofNat c.toNat] := if_pos h

/-- Text in which every character takes one byte. -/
theorem encode_ascii {l : List Char} (h : ∀ c ∈ l, c.toNat < 0x80) :
    encode l = l.map fun c => UInt8.ofNat c.toNat := by
  induction l with
  | nil => rfl
  | cons c l ih =>
    obtain ⟨hc, hl⟩ := List.forall_mem_cons.mp h
    rw [encode_cons, encodeChar_ascii hc, ih hl, List.map_cons]
    rfl

/-- A byte of a character is the character itself or none of ASCII. -/
theorem mem_encodeChar {c : Char} {b : UInt8} (h : b ∈ encodeChar c) :
    b.toNat = c.toNat ∨ 0x80 ≤ b.toNat := by
  have hlarge : ∀ n, 0x80 ≤ n → n < 256 → 0x80 ≤ (UInt8.ofNat n).toNat := by
    intro n hn hn'
    rwa [toNat_ofNat hn']
  have hcontinued : ∀ n, 0x80 ≤ (continuation n).toNat :=
    fun n => hlarge _ (by omega) (by omega)
  have hvalid : c.toNat < 0xd800 ∨ 0xdfff < c.toNat ∧ c.toNat < 0x110000 := c.valid
  unfold encodeChar at h
  generalize c.toNat = n at h hvalid ⊢
  by_cases h1 : n < 0x80
  · rw [if_pos h1, List.mem_singleton] at h
    rw [h, toNat_ofNat (by omega)]
    exact Or.inl rfl
  refine Or.inr ?_
  rw [if_neg h1] at h
  by_cases h2 : n < 0x800
  · simp only [h2, if_true, List.mem_cons, List.not_mem_nil, or_false] at h
    rcases h with rfl | rfl
    · exact hlarge _ (by omega) (by omega)
    · exact hcontinued _
  rw [if_neg h2] at h
  by_cases h3 : n < 0x10000
  · simp only [h3, if_true, List.mem_cons, List.not_mem_nil, or_false] at h
    rcases h with rfl | rfl | rfl
    · exact hlarge _ (by omega) (by omega)
    · exact hcontinued _
    · exact hcontinued _
  · simp only [h3, if_false, List.mem_cons, List.not_mem_nil, or_false] at h
    rcases h with rfl | rfl | rfl | rfl
    · exact hlarge _ (by omega) (by omega)
    · exact hcontinued _
    · exact hcontinued _
    · exact hcontinued _

end SessionAuth.Utf8
