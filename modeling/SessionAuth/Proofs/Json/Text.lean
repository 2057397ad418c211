import SessionAuth.Json.Reader
import SessionAuth.Proofs.Result
import SessionAuth.Proofs.Text.Utf8

/-!
Text in JSON reads back, and is passed over as a whole.

Both readers go over what is written one escape at a time, so that each needs one lemma about a single
character. Three ways of writing a character have to be told apart: short escapes, the escapes of
the other control characters, and characters that stand for themselves in one byte or several.
-/

set_option autoImplicit false

namespace SessionAuth.Json

variable {c : Char} {b rest : Bytes}

/-! ## Characters that stand for themselves -/

/-- A byte that is neither a quote nor a backslash nor a control character. -/
def IsPlain (x : UInt8) : Prop := x ≠ byte '"' ∧ x ≠ byte '\\' ∧ 32 ≤ x.toNat

theorem prepend_prepend (a b : Bytes) (r : Except Fault (Bytes × Bytes)) :
    prepend a (prepend b r) = prepend (a ++ b) r := by
  cases r with
  | error fault => rfl
  | ok p =>
    show Except.ok (a ++ (b ++ p.1), p.2) = Except.ok (a ++ b ++ p.1, p.2)
    rw [List.append_assoc]

theorem readTextBytes_plain {x : UInt8} (h : IsPlain x) :
    readTextBytes (x :: b) = prepend [x] (readTextBytes b) := by
  obtain ⟨hquote, hback, hcontrol⟩ := h
  rw [readTextBytes.eq_def]
  simp only [hquote, hback, if_false, Nat.not_lt.mpr hcontrol]

theorem skipText_plain {x : UInt8} (h : IsPlain x) : skipText (x :: b) = skipText b := by
  obtain ⟨hquote, hback, hcontrol⟩ := h
  rw [skipText.eq_def]
  simp only [hquote, hback, if_false, Nat.not_lt.mpr hcontrol]

theorem readTextBytes_plains {xs : Bytes} (h : ∀ x ∈ xs, IsPlain x) :
    readTextBytes (xs ++ b) = prepend xs (readTextBytes b) := by
  induction xs with
  | nil =>
    rw [List.nil_append]
    cases readTextBytes b <;> rfl
  | cons x xs ih =>
    obtain ⟨hx, hxs⟩ := List.forall_mem_cons.mp h
    rw [List.cons_append, readTextBytes_plain hx, ih hxs, prepend_prepend]
    rfl

theorem skipText_plains {xs : Bytes} (h : ∀ x ∈ xs, IsPlain x) :
    skipText (xs ++ b) = skipText b := by
  induction xs with
  | nil => rfl
  | cons x xs ih =>
    obtain ⟨hx, hxs⟩ := List.forall_mem_cons.mp h
    rw [List.cons_append, skipText_plain hx, ih hxs]

/-- The bytes of a character that is not escaped. -/
theorem isPlain_of_mem {x : UInt8} (hquote : c ≠ '"') (hback : c ≠ '\\') (hcontrol : 32 ≤ c.toNat)
    (h : x ∈ Utf8.encodeChar c) : IsPlain x := by
  have hc : ∀ d : Char, c ≠ d → c.toNat ≠ d.toNat := fun d hne heq => hne (Char.toNat_inj.mp heq)
  have hquote' : c.toNat ≠ 34 := hc _ hquote
  have hback' : c.toNat ≠ 92 := hc _ hback
  rcases Utf8.mem_encodeChar h with hx | hx
  · refine ⟨?_, ?_, by omega⟩
    · rintro rfl
      exact hquote' hx.symm
    · rintro rfl
      exact hback' hx.symm
  · refine ⟨?_, ?_, by omega⟩
    · rintro rfl
      revert hx
      decide
    · rintro rfl
      revert hx
      decide

/-! ## Escapes -/

/-- The characters with a short escape, and the bytes behind the backslash. -/
theorem readTextBytes_short {x e : UInt8} (h : shortEscape? e = some x) :
    readTextBytes (byte '\\' :: e :: b) = prepend [x] (readTextBytes b) := by
  rw [readTextBytes.eq_def]
  simp only [h]
  rfl

theorem skipText_short {x e : UInt8} (h : shortEscape? e = some x) :
    skipText (byte '\\' :: e :: b) = skipText b := by
  rw [skipText.eq_def]
  simp only [h]
  rfl

/-- A control character is written with the digits of its number. -/
theorem readTextBytes_control {h₃ h₄ : UInt8} {n : Nat} (hn : n < 32)
    (h : hex4? (byte '0') (byte '0') h₃ h₄ = some n) :
    readTextBytes (byte '\\' :: byte 'u' :: byte '0' :: byte '0' :: h₃ :: h₄ :: b)
      = prepend (Utf8.encodeChar (Char.ofNat n)) (readTextBytes b) := by
  have hshort : shortEscape? (byte 'u') = none := by decide
  have htrailing : isTrailing n = false := by
    unfold isTrailing
    simp only [Bool.and_eq_false_iff, decide_eq_false_iff_not]
    omega
  have hleading : isLeading n = false := by
    unfold isLeading
    simp only [Bool.and_eq_false_iff, decide_eq_false_iff_not]
    omega
  rw [readTextBytes.eq_def]
  simp only [hshort, h, htrailing, hleading]
  rfl

theorem skipText_control {h₃ h₄ : UInt8} {n : Nat}
    (h : hex4? (byte '0') (byte '0') h₃ h₄ = some n) :
    skipText (byte '\\' :: byte 'u' :: byte '0' :: byte '0' :: h₃ :: h₄ :: b) = skipText b := by
  have hshort : shortEscape? (byte 'u') = none := by decide
  rw [skipText.eq_def]
  simp only [hshort, h]
  rfl

/-- The digits of a control character. -/
def controlDigits (n : Nat) : List Char := [if n < 16 then '0' else '1', Nat.digitChar (n % 16)]

theorem controlDigits_ascii {n : Nat} (h : n < 32) : ∀ d ∈ controlDigits n, d.toNat < 0x80 := by
  have hall : ∀ n < 32, (controlDigits n).all (fun d => decide (d.toNat < 0x80)) = true := by
    decide
  intro d hd
  exact of_decide_eq_true (List.all_eq_true.mp (hall n h) d hd)

theorem hex4?_controlDigits {n : Nat} (h : n < 32) :
    hex4? (byte '0') (byte '0') (byte (if n < 16 then '0' else '1'))
      (byte (Nat.digitChar (n % 16))) = some n := by
  revert n
  decide

theorem encode_control {n : Nat} (h : n < 32) :
    Utf8.encode (['\\', 'u', '0', '0'] ++ controlDigits n)
      = [byte '\\', byte 'u', byte '0', byte '0', byte (if n < 16 then '0' else '1'),
        byte (Nat.digitChar (n % 16))] := by
  rw [Utf8.encode_append, Utf8.encode_ascii (controlDigits_ascii h)]
  rfl

/-- **The ways in which a character is written**: a short escape, the number of a control character, or
the bytes of the character itself. -/
inductive Written (c : Char) : Bytes → Prop where
  | short {x e : UInt8} (h : shortEscape? e = some x) (hx : Utf8.encodeChar c = [x]) :
      Written c [byte '\\', e]
  | control {h₃ h₄ : UInt8} (hc : c.toNat < 32)
      (h : hex4? (byte '0') (byte '0') h₃ h₄ = some c.toNat) :
      Written c [byte '\\', byte 'u', byte '0', byte '0', h₃, h₄]
  | plain (h : ∀ x ∈ Utf8.encodeChar c, IsPlain x) : Written c (Utf8.encodeChar c)

theorem written_escape (c : Char) : Written c (Utf8.encode (escape c)) := by
  by_cases h₁ : c = '"'
  · subst h₁
    exact .short (e := byte '"') rfl rfl
  by_cases h₂ : c = '\\'
  · subst h₂
    exact .short (e := byte '\\') rfl rfl
  by_cases h₃ : c = '\x08'
  · subst h₃
    exact .short (e := byte 'b') rfl rfl
  by_cases h₄ : c = '\x0c'
  · subst h₄
    exact .short (e := byte 'f') rfl rfl
  by_cases h₅ : c = '\n'
  · subst h₅
    exact .short (e := byte 'n') rfl rfl
  by_cases h₆ : c = '\r'
  · subst h₆
    exact .short (e := byte 'r') rfl rfl
  by_cases h₇ : c = '\t'
  · subst h₇
    exact .short (e := byte 't') rfl rfl
  unfold escape
  simp only [h₁, h₂, h₃, h₄, h₅, h₆, h₇, if_false]
  by_cases h₈ : c.toNat < 32
  · rw [if_pos h₈]
    have hbytes := encode_control h₈
    unfold controlDigits at hbytes
    rw [List.cons_append, List.cons_append, List.cons_append, List.cons_append,
      List.nil_append] at hbytes
    rw [hbytes]
    exact .control h₈ (hex4?_controlDigits h₈)
  · rw [if_neg h₈, Utf8.encode_cons, Utf8.encode_nil, List.append_nil]
    exact .plain fun x hx => isPlain_of_mem h₁ h₂ (Nat.not_lt.mp h₈) hx

theorem readTextBytes_written {bytes : Bytes} (h : Written c bytes) :
    readTextBytes (bytes ++ b) = prepend (Utf8.encodeChar c) (readTextBytes b) := by
  cases h with
  | short h hx =>
    rw [hx]
    exact readTextBytes_short h
  | control hc h =>
    have hread := readTextBytes_control (b := b) hc h
    rw [Char.ofNat_toNat] at hread
    exact hread
  | plain h => exact readTextBytes_plains h

theorem skipText_written {bytes : Bytes} (h : Written c bytes) :
    skipText (bytes ++ b) = skipText b := by
  cases h with
  | short h _ => exact skipText_short h
  | control _ h => exact skipText_control h
  | plain h => exact skipText_plains h

/-! ## Texts -/

/-- The bytes of text behind its opening quote, its closing quote included. -/
def quotedTail (s : String) : Bytes := Utf8.encode (s.toList.flatMap escape) ++ [byte '"']

theorem encode_quote (s : String) : Utf8.encode (quote s) = byte '"' :: quotedTail s := by
  unfold quote quotedTail
  rw [Utf8.encode_append, Utf8.encode_cons]
  rfl

theorem readTextBytes_escapes (l : List Char) :
    readTextBytes (Utf8.encode (l.flatMap escape) ++ byte '"' :: rest)
      = .ok (Utf8.encode l, rest) := by
  induction l with
  | nil =>
    show readTextBytes (byte '"' :: rest) = _
    rw [readTextBytes.eq_def]
    rfl
  | cons c l ih =>
    rw [List.flatMap_cons, Utf8.encode_append, List.append_assoc,
      readTextBytes_written (written_escape c), ih, Utf8.encode_cons]
    rfl

/-- **Text reads back.** -/
theorem readTextTail_quotedTail (s : String) :
    readTextTail (quotedTail s ++ rest) = .ok (s, rest) := by
  unfold readTextTail quotedTail
  rw [List.append_assoc, List.singleton_append, readTextBytes_escapes]
  simp only [ok_bind, Utf8.toString?_encode]

/-- Text is passed over. -/
theorem skipText_quotedTail (s : String) : skipText (quotedTail s ++ rest) = .ok rest := by
  unfold quotedTail
  rw [List.append_assoc, List.singleton_append]
  induction s.toList with
  | nil =>
    show skipText (byte '"' :: rest) = _
    rw [skipText.eq_def]
    rfl
  | cons c l ih =>
    rw [List.flatMap_cons, Utf8.encode_append, List.append_assoc,
      skipText_written (written_escape c), ih]

end SessionAuth.Json
