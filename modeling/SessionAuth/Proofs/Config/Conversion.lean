import Mathlib.Algebra.Order.Round
import Mathlib.Data.Rat.Floor
import SessionAuth.Config.Format
import SessionAuth.Proofs.Decimal.Digits
import SessionAuth.Proofs.Result
import SessionAuth.Proofs.Text.LowerCase

/-!
What scalars mean as numbers and as texts.

A whole number stands for itself, a switch for one or zero, a floating-point number for the nearest natural
number that fits into 64 bits, and a text for the number that it is a numeral of, or for one or zero if it
is a word for a switch. `Scalar.Denotes` and `Scalar.Reads` say so in the words of arithmetic: the value of
a numeral is the sum of its digits' values, and the nearest number is that of rational numbers. Layers are
converted accordingly (`layerNumber_eq_ok_iff`, `layerText_eq_ok_iff`).
-/

set_option autoImplicit false

namespace SessionAuth

namespace Decimal

/-! ## Numerals -/

/-- **A numeral**: digits, at least one of them, with a plus sign in front of them or without. -/
inductive IsNumeral : List Char → Nat → Prop where
  | plain {l : List Char} (hne : l ≠ []) (hdigits : ∀ c ∈ l, c.isDigit = true) :
      IsNumeral l (Nat.ofDigitChars 10 l 0)
  | signed {l : List Char} (hne : l ≠ []) (hdigits : ∀ c ∈ l, c.isDigit = true) :
      IsNumeral ('+' :: l) (Nat.ofDigitChars 10 l 0)

/-- A character has a value if it is a digit. -/
theorem value?_eq (c : Char) :
    value? c = if c.isDigit = true then some (c.toNat - '0'.toNat) else none := by
  have hiff : (48 ≤ c.toNat ∧ c.toNat ≤ 57) ↔ c.isDigit = true := by
    rw [Char.isDigit, Bool.and_eq_true, decide_eq_true_iff, decide_eq_true_iff, ge_iff_le,
      UInt32.le_iff_toNat_le, UInt32.le_iff_toNat_le]
    rfl
  unfold value?
  by_cases h : c.isDigit = true
  · rw [if_pos h, if_pos (hiff.mpr h)]
    rfl
  · rw [if_neg h, if_neg (mt hiff.mp h)]

/-- Digits are read as a numeral that goes on. -/
theorem readOnto_eq_some_iff {l : List Char} {n m : Nat} :
    readOnto n l = some m ↔ (∀ c ∈ l, c.isDigit = true) ∧ m = Nat.ofDigitChars 10 l n := by
  induction l generalizing n with
  | nil =>
    rw [readOnto, Option.some_inj]
    exact ⟨fun h => ⟨List.forall_mem_nil _, h.symm⟩, fun h => h.2.symm⟩
  | cons c rest ih =>
    rw [readOnto, value?_eq, List.forall_mem_cons]
    by_cases hc : c.isDigit = true
    · rw [if_pos hc]
      show readOnto (10 * n + (c.toNat - '0'.toNat)) rest = some m ↔ _
      rw [ih, Nat.ofDigitChars_cons]
      exact ⟨fun h => ⟨⟨hc, h.1⟩, h.2⟩, fun h => ⟨h.1.2, h.2⟩⟩
    · rw [if_neg hc]
      exact iff_of_false (Option.some_ne_none m).symm fun h => hc h.1.1

theorem read?_eq_some_iff {l : List Char} {n : Nat} :
    read? l = some n ↔ l ≠ [] ∧ (∀ c ∈ l, c.isDigit = true) ∧ n = Nat.ofDigitChars 10 l 0 := by
  unfold read?
  rw [← readOnto_eq_some_iff]
  cases l with
  | nil => exact ⟨nofun, fun h => absurd rfl h.1⟩
  | cons c rest => exact ⟨fun h => ⟨nofun, h⟩, fun h => h.2⟩

/-- **What is read as a number is a numeral of it.** -/
theorem readSigned?_eq_some_iff {l : List Char} {n : Nat} :
    readSigned? l = some n ↔ IsNumeral l n := by
  unfold readSigned?
  split
  · rw [read?_eq_some_iff]
    constructor
    · rintro ⟨hne, hdigits, rfl⟩
      exact .signed hne hdigits
    · intro h
      cases h with
      | plain _ hdigits => exact absurd (hdigits '+' List.mem_cons_self) (by decide)
      | signed hne hdigits => exact ⟨hne, hdigits, rfl⟩
  · rename_i hsign
    rw [read?_eq_some_iff]
    constructor
    · rintro ⟨hne, hdigits, rfl⟩
      exact .plain hne hdigits
    · intro h
      cases h with
      | plain hne hdigits => exact ⟨hne, hdigits, rfl⟩
      | signed => exact absurd rfl (hsign _)

/-- There is a digit in every numeral. -/
theorem IsNumeral.exists_digit {l : List Char} {n : Nat} (h : IsNumeral l n) :
    ∃ c ∈ l, c.isDigit = true := by
  cases h with
  | plain hne hdigits =>
    obtain ⟨c, hc⟩ := List.exists_mem_of_ne_nil _ hne
    exact ⟨c, hc, hdigits c hc⟩
  | signed hne hdigits =>
    obtain ⟨c, hc⟩ := List.exists_mem_of_ne_nil _ hne
    exact ⟨c, List.mem_cons_of_mem _ hc, hdigits c hc⟩

/-- Nothing happens to a numeral when it is lowered. -/
theorem IsNumeral.lower_eq {l : List Char} {n : Nat} (h : IsNumeral l n) : Text.lower l = l := by
  have hsmall : ∀ c : Char, c.isDigit = true ∨ c = '+' → Text.IsSmall c := by
    intro c hc
    have hrange : c.toNat < 65 := by
      rcases hc with hc | rfl
      · rw [Char.isDigit, Bool.and_eq_true, decide_eq_true_iff, decide_eq_true_iff] at hc
        have hlast : c.toNat ≤ 57 := UInt32.le_iff_toNat_le.mp hc.2
        omega
      · decide
    refine ⟨fun heq => ?_, fun heq => ?_, ?_⟩
    · rw [heq] at hrange
      exact absurd hrange (by decide)
    · rw [heq] at hrange
      exact absurd hrange (by decide)
    · rw [Text.lowerChar, if_pos (by omega), if_neg (by omega)]
  refine Text.lowerAfter_of_isSmall fun c hc => hsmall c ?_
  cases h with
  | plain _ hdigits => exact .inl (hdigits c hc)
  | signed _ hdigits =>
    rcases List.mem_cons.mp hc with rfl | hc
    · exact .inr rfl
    · exact .inl (hdigits c hc)

/-! ## Written numbers -/

theorem digits_eq_toDigits (n : Nat) : digits n = Nat.toDigits 10 n := by
  obtain ⟨ds, hds, hspells⟩ := digits_spells n
  rw [hds]
  clear hds
  -- the digits are put together from the left on both sides
  have hdigit : ∀ d < 10, digit d = Nat.digitChar d := by decide
  induction hspells with
  | single h => rw [List.map_singleton, hdigit _ h, Nat.toDigits_of_lt_base h]
  | @snoc ds n d _ hn hd ih =>
    have hsplit := Nat.toDigits_append_toDigits (by decide : 1 < 10) hn hd
    rw [List.map_append, ih, List.map_singleton, hdigit d hd, Nat.mul_comm, ← hsplit,
      Nat.toDigits_of_lt_base hd]

/-- **A whole number is written as usual.** -/
theorem intToText_eq (i : Int) : intToText i = toString i := by
  unfold intToText toText
  cases i with
  | ofNat n =>
    rw [if_neg (by simp), digits_eq_toDigits]
    exact Nat.repr_eq_ofList_toDigits.symm
  | negSucc n =>
    rw [if_pos (Int.negSucc_lt_zero n), digits_eq_toDigits, String.ofList_cons]
    show _ = "-" ++ n.succ.repr
    rw [Nat.repr_eq_ofList_toDigits]
    rfl

/-! ## Floating-point numbers -/

/-- **The rational number** that a magnitude is. -/
def Binary.value (x : Binary) : ℚ := x.mantissa * (2 : ℚ) ^ x.exponent

theorem Binary.value_eq (x : Binary) : x.value = (x.toRatio.1 : ℚ) / (x.toRatio.2 : ℚ) := by
  unfold value toRatio
  split
  · rename_i h
    obtain ⟨k, hk⟩ := Int.eq_ofNat_of_zero_le h
    rw [hk]
    simp
  · rename_i h
    obtain ⟨k, hk⟩ := Int.eq_ofNat_of_zero_le (Int.neg_nonneg_of_nonpos (by omega : x.exponent ≤ 0))
    have hexponent : x.exponent = -(k : Int) := by omega
    rw [hexponent]
    simp [div_eq_mul_inv]

theorem Binary.toRatio_pos (x : Binary) : 0 < x.toRatio.2 := by
  unfold toRatio
  split
  · exact Nat.one_pos
  · exact Nat.pow_pos Nat.two_pos

/-- **Rounding a magnitude** is rounding the number that it is. -/
theorem round_magnitude (x : Binary) : round x.value = (x.round : Int) := by
  have hd : (x.toRatio.2 : ℚ) ≠ 0 := Nat.cast_ne_zero.mpr (Nat.ne_of_gt x.toRatio_pos)
  have hhalf : x.value + 1 / 2
      = ((2 * x.toRatio.1 + x.toRatio.2 : Nat) : ℚ) / ((2 * x.toRatio.2 : Nat) : ℚ) := by
    rw [x.value_eq]
    push_cast
    field_simp
  rw [round_eq, hhalf, Rat.floor_natCast_div_natCast]
  rfl

theorem value_nonneg (x : Binary) : 0 ≤ x.value :=
  mul_nonneg (Nat.cast_nonneg _) (zpow_nonneg (by norm_num) _)

/-- Nothing below zero is rounded to a number above it. -/
theorem round_neg_magnitude (x : Binary) : round (-x.value) ≤ 0 := by
  rw [round_eq, Int.floor_le_iff]
  have hx := value_nonneg x
  push_cast
  linarith

/-- The nearest natural number is that of the rational number, cut off at the limit. -/
theorem roundBelow_finite (limit : Nat) (negative : Bool) (x : Binary) :
    Extended.roundBelow limit (.finite negative x)
      = min (round (if negative then -x.value else x.value)).toNat (limit - 1) := by
  cases negative with
  | false =>
    rw [if_neg Bool.false_ne_true, round_magnitude, Int.toNat_natCast]
    rfl
  | true =>
    rw [if_pos rfl, Int.toNat_of_nonpos (round_neg_magnitude x), Nat.zero_min]
    rfl

end Decimal

namespace Config

/-! ## Scalars -/

/-- **The number that a scalar denotes.** Floating-point numbers are cut off at zero and at the greatest
number of 64 bits. -/
inductive Scalar.Denotes : Scalar → Nat → Prop where
  | integer (n : Nat) : Denotes (.integer n) n
  | switchOn : Denotes (.bool true) 1
  | switchOff : Denotes (.bool false) 0
  | finite (negative : Bool) (x : Decimal.Binary) :
      Denotes (.float (.finite negative x))
        (min (round (if negative then -x.value else x.value)).toNat (2 ^ 64 - 1))
  | aboveAll : Denotes (.float (.infinite false)) (2 ^ 64 - 1)
  | belowAll : Denotes (.float (.infinite true)) 0
  | undefined : Denotes (.float .undefined) 0
  | wordOn {s : String} (h : String.ofList (Text.lower s.toList) ∈ ["true", "on", "yes"]) :
      Denotes (.text s) 1
  | wordOff {s : String} (h : String.ofList (Text.lower s.toList) ∈ ["false", "off", "no"]) :
      Denotes (.text s) 0
  | numeral {s : String} {n : Nat} (h : Decimal.IsNumeral s.toList n) (hn : n < 2 ^ 64) :
      Denotes (.text s) n

/-- **The number of so many bits that a scalar denotes.** -/
def Scalar.DenotesWithin (bits : Nat) (v : Scalar) (n : Nat) : Prop := v.Denotes n ∧ n < 2 ^ bits

/-- **The text that a scalar is read as.** -/
inductive Scalar.Reads : Scalar → String → Prop where
  | text (s : String) : Reads (.text s) s
  | switch (b : Bool) : Reads (.bool b) (toString b)
  | integer (i : Int) : Reads (.integer i) (toString i)
  | float (x : Decimal.Extended) : Reads (.float x) x.toText

/-- A numeral is no word for a switch. -/
theorem not_mem_words_of_isNumeral {s : String} {n : Nat} (h : Decimal.IsNumeral s.toList n)
    {words : List String} (hwords : ∀ w ∈ words, w.toList.any Char.isDigit = false) :
    String.ofList (Text.lower s.toList) ∉ words := by
  intro hmem
  obtain ⟨c, hc, hdigit⟩ := h.exists_digit
  rw [h.lower_eq, String.ofList_toList] at hmem
  exact absurd hdigit (List.any_eq_false.mp (hwords s hmem) c hc)

/-- What a text stands for as a number is what it denotes. -/
theorem numberOfText?_eq_some_iff {s : String} {n : Nat} :
    numberOfText? s = some n ↔ (Scalar.text s).Denotes n := by
  have hon : ∀ w ∈ ["true", "on", "yes"], w.toList.any Char.isDigit = false := by decide
  have hoff : ∀ w ∈ ["false", "off", "no"], w.toList.any Char.isDigit = false := by decide
  have hapart : ∀ w ∈ ["false", "off", "no"], w ∉ ["true", "on", "yes"] := by decide
  -- the words are looked for first; what is a word for one is neither a word for zero nor a numeral
  unfold numberOfText?
  simp only [List.contains_iff_mem]
  split
  · rename_i hword
    rw [Option.some_inj]
    constructor
    · rintro rfl
      exact .wordOn hword
    · intro h
      cases h with
      | wordOn _ => rfl
      | wordOff h => exact absurd hword (hapart _ h)
      | numeral h _ => exact absurd hword (not_mem_words_of_isNumeral h hon)
  split
  · rename_i hnot hword
    rw [Option.some_inj]
    constructor
    · rintro rfl
      exact .wordOff hword
    · intro h
      cases h with
      | wordOn h => exact absurd h hnot
      | wordOff _ => rfl
      | numeral h _ => exact absurd hword (not_mem_words_of_isNumeral h hoff)
  · rename_i hnotOn hnotOff
    rw [Option.filter_eq_some_iff, decide_eq_true_iff, Decimal.readSigned?_eq_some_iff]
    constructor
    · rintro ⟨hnumeral, hn⟩
      exact .numeral hnumeral hn
    · intro h
      cases h with
      | wordOn h => exact absurd h hnotOn
      | wordOff h => exact absurd h hnotOff
      | numeral hnumeral hn => exact ⟨hnumeral, hn⟩

section

variable (origin : Option String) {v : Scalar}

/-- **Numbers are converted as they are meant.** -/
theorem layerNumber_eq_ok_iff {n : Nat} :
    layerNumber (.scalar origin v) = .ok n ↔ v.Denotes n := by
  cases v with
  | null => exact ⟨nofun, nofun⟩
  | bool b =>
    cases b with
    | false => exact ⟨fun h => Except.ok.inj h ▸ .switchOff, fun h => by cases h; rfl⟩
    | true => exact ⟨fun h => Except.ok.inj h ▸ .switchOn, fun h => by cases h; rfl⟩
  | integer i =>
    unfold layerNumber
    dsimp only
    split
    · rename_i hi
      obtain ⟨k, rfl⟩ := Int.eq_ofNat_of_zero_le hi
      exact ⟨fun h => Except.ok.inj h ▸ .integer k, fun h => by cases h; rfl⟩
    · rename_i hi
      refine ⟨nofun, fun h => ?_⟩
      cases h with
      | integer _ => exact absurd (Int.natCast_nonneg n) hi
  | float x =>
    show Except.ok (x.roundBelow Decimal.wordLimit) = .ok n ↔ _
    rw [Except.ok.injEq]
    cases x with
    | finite negative x =>
      rw [Decimal.roundBelow_finite]
      exact ⟨fun h => h ▸ .finite negative x, fun h => by cases h; rfl⟩
    | infinite negative =>
      cases negative with
      | false => exact ⟨fun h => h ▸ .aboveAll, fun h => by cases h; rfl⟩
      | true => exact ⟨fun h => h ▸ .belowAll, fun h => by cases h; rfl⟩
    | undefined => exact ⟨fun h => h ▸ .undefined, fun h => by cases h; rfl⟩
  | text s =>
    rw [← numberOfText?_eq_some_iff]
    unfold layerNumber
    dsimp only
    cases numberOfText? s with
    | none => exact ⟨nofun, nofun⟩
    | some m =>
      exact ⟨fun h => congrArg some (Except.ok.inj h),
        fun h => congrArg Except.ok (Option.some.inj h)⟩

theorem layerNatural_eq_ok_iff {bits n : Nat} :
    layerNatural bits (.scalar origin v) = .ok n ↔ v.DenotesWithin bits n := by
  unfold layerNatural Scalar.DenotesWithin
  rw [← layerNumber_eq_ok_iff origin]
  cases layerNumber (.scalar origin v) with
  | error fault => exact ⟨nofun, nofun⟩
  | ok m =>
    rw [ok_bind]
    by_cases hm : m < Nat.pow 2 bits
    · rw [if_pos hm]
      exact ⟨fun h => ⟨h, Except.ok.inj h ▸ hm⟩, fun h => h.1⟩
    · rw [if_neg hm]
      exact ⟨nofun, fun h => absurd (Except.ok.inj h.1 ▸ h.2) hm⟩

/-- **Texts are converted as they are read.** -/
theorem layerText_eq_ok_iff {x : String} : layerText (.scalar origin v) = .ok x ↔ v.Reads x := by
  cases v with
  | null => exact ⟨nofun, nofun⟩
  | bool b =>
    have htext : (if b then "true" else "false") = toString b := by cases b <;> rfl
    show Except.ok (if b then "true" else "false") = .ok x ↔ _
    rw [htext]
    exact ⟨fun h => Except.ok.inj h ▸ .switch b, fun h => by cases h; rfl⟩
  | integer i =>
    show Except.ok (Decimal.intToText i) = .ok x ↔ _
    rw [Decimal.intToText_eq]
    exact ⟨fun h => Except.ok.inj h ▸ .integer i, fun h => by cases h; rfl⟩
  | float y => exact ⟨fun h => Except.ok.inj h ▸ .float y, fun h => by cases h; rfl⟩
  | text s => exact ⟨fun h => Except.ok.inj h ▸ .text s, fun h => by cases h; rfl⟩

/-- A scalar denotes one number at most. -/
theorem Scalar.Denotes.unique {n m : Nat} (hn : v.Denotes n) (hm : v.Denotes m) : n = m :=
  Except.ok.inj (((layerNumber_eq_ok_iff none).mpr hn).symm.trans
    ((layerNumber_eq_ok_iff none).mpr hm))

/-- A scalar is read as one text at most. -/
theorem Scalar.Reads.unique {x y : String} (hx : v.Reads x) (hy : v.Reads y) : x = y :=
  Except.ok.inj (((layerText_eq_ok_iff none).mpr hx).symm.trans
    ((layerText_eq_ok_iff none).mpr hy))

end

end Config

end SessionAuth
