import SessionAuth.Json.Reader
import SessionAuth.Proofs.Decimal.Digits
import SessionAuth.Proofs.Text.Utf8

/-!
Whole numbers in JSON read back, and are passed over as a whole.

A number has no end of its own: it ends where nothing follows that could continue it (`EndsNumber`),
which is true of the comma and of the brace that follow a number in an object.
-/

set_option autoImplicit false

namespace SessionAuth.Json

open Decimal (Spells valueFrom)

variable {rest : Bytes} {negative : Bool} {n : Nat} {i : Int}

/-- Nothing comes next that would continue a number. -/
def EndsNumber (b : Bytes) : Prop :=
  ∀ x ∈ b.head?, isDigit x = false ∧ x ≠ byte '.' ∧ isExponentMark x = false

/-! ## Digits -/

/-- The byte of a digit. -/
def digitByte (d : Nat) : UInt8 := byte (Decimal.digit d)

theorem digit?_digitByte {d : Nat} (h : d < 10) : digit? (digitByte d) = some d := by
  revert d
  decide

theorem isDigit_digitByte {d : Nat} (h : d < 10) : isDigit (digitByte d) = true := by
  unfold isDigit
  rw [digit?_digitByte h]
  rfl

theorem encode_digits {ds : List Nat} (h : ∀ d ∈ ds, d < 10) :
    Utf8.encode (ds.map Decimal.digit) = ds.map digitByte := by
  rw [Utf8.encode_ascii, List.map_map]
  · rfl
  · intro c hc
    obtain ⟨d, hd, rfl⟩ := List.mem_map.mp hc
    rw [Decimal.digit_toNat (h d hd)]
    have := h d hd
    omega

/-! ## The end of a number -/

theorem readTail_end (h : EndsNumber rest) :
    readTail negative n rest = .ok (wholeNumber negative n, rest) := by
  cases rest with
  | nil => rfl
  | cons x rest =>
    obtain ⟨-, hpoint, hmark⟩ := h x rfl
    rw [readTail, if_neg hpoint, hmark]
    rfl

theorem skipNumberTail_end (h : EndsNumber rest) : skipNumberTail rest = .ok rest := by
  cases rest with
  | nil => rfl
  | cons x rest =>
    obtain ⟨-, hpoint, hmark⟩ := h x rfl
    rw [skipNumberTail.eq_def]
    simp only [hpoint, hmark, if_false]
    rfl

theorem head?_end (h : EndsNumber rest) : rest.head?.any isDigit = false := by
  cases rest with
  | nil => rfl
  | cons x rest => exact (h x rfl).1

/-! ## Whole numbers -/

theorem readWhole_digits {ds : List Nat} (hds : ∀ d ∈ ds, d < 10) (hrest : EndsNumber rest) :
    ∀ {n : Nat}, valueFrom n ds < Decimal.wordLimit →
      readWhole negative n (ds.map digitByte ++ rest)
        = .ok (wholeNumber negative (valueFrom n ds), rest) := by
  induction ds with
  | nil =>
    intro n _
    show readWhole negative n rest = .ok (wholeNumber negative n, rest)
    cases rest with
    | nil => rfl
    | cons x rest =>
      have hx : digit? x = none := by
        exact Option.isNone_iff_eq_none.mp (Option.isSome_eq_false_iff.mp (hrest x rfl).1)
      rw [readWhole, hx]
      exact readTail_end hrest
  | cons d ds ih =>
    intro n hn
    obtain ⟨hd, hds'⟩ := List.forall_mem_cons.mp hds
    have hle : n * 10 + d ≤ valueFrom (n * 10 + d) ds := Decimal.le_valueFrom _ _
    have hbound : ¬Decimal.wordLimit ≤ n * 10 + d := Nat.not_le.mpr (Nat.lt_of_le_of_lt hle hn)
    rw [List.map_cons, List.cons_append, readWhole, digit?_digitByte hd]
    simp only [hbound, if_false]
    exact ih hds' hn

/-- The digits of a number: the first one, and what follows it. -/
theorem readNumber_digits (hn : n < Decimal.wordLimit) (hrest : EndsNumber rest) :
    readNumber negative (Utf8.encode (Decimal.digits n) ++ rest)
      = .ok (wholeNumber negative n, rest) := by
  obtain ⟨ds, hds, hspells⟩ := Decimal.digits_spells n
  have hten := hspells.lt_ten
  rw [hds, encode_digits hten]
  obtain ⟨d, ds, rfl, hzero⟩ := hspells.head
  obtain ⟨hd, htail⟩ := List.forall_mem_cons.mp hten
  have hvalue : valueFrom d ds = n := by
    have h := hspells.value
    unfold valueFrom at h ⊢
    rwa [List.foldl_cons, Nat.zero_mul, Nat.zero_add] at h
  rw [List.map_cons, List.cons_append, readNumber, digit?_digitByte hd]
  rcases d with _ | d
  · obtain ⟨rfl, rfl⟩ := hzero rfl
    show (if rest.head?.any isDigit then _ else readTail negative 0 rest) = _
    rw [head?_end hrest]
    exact readTail_end hrest
  · show readWhole negative (d + 1) (ds.map digitByte ++ rest) = _
    rw [readWhole_digits htail hrest (by rwa [hvalue]), hvalue]

theorem skipNumber_digits (hrest : EndsNumber rest) :
    skipNumber (Utf8.encode (Decimal.digits n) ++ rest) = .ok rest := by
  obtain ⟨ds, hds, hspells⟩ := Decimal.digits_spells n
  have hten := hspells.lt_ten
  rw [hds, encode_digits hten]
  obtain ⟨d, ds, rfl, hzero⟩ := hspells.head
  obtain ⟨hd, htail⟩ := List.forall_mem_cons.mp hten
  rw [List.map_cons, List.cons_append, skipNumber, digit?_digitByte hd]
  rcases d with _ | d
  · obtain ⟨rfl, rfl⟩ := hzero rfl
    show (if rest.head?.any isDigit then _ else skipNumberTail rest) = _
    rw [head?_end hrest]
    exact skipNumberTail_end hrest
  · have hdrop : (ds.map digitByte ++ rest).dropWhile isDigit = rest := by
      rw [List.dropWhile_append_of_pos]
      · cases rest with
        | nil => rfl
        | cons x rest =>
          rw [List.dropWhile_cons_of_neg]
          rw [(hrest x rfl).1]
          exact Bool.false_ne_true
      · intro x hx
        obtain ⟨d, hd, rfl⟩ := List.mem_map.mp hx
        exact isDigit_digitByte (htail d hd)
    show skipNumberTail ((ds.map digitByte ++ rest).dropWhile isDigit) = _
    rw [hdrop]
    exact skipNumberTail_end hrest

/-! ## Whole numbers with a sign -/

/-- The bytes of a whole number. -/
def intBytes (i : Int) : Bytes := Utf8.encode (Decimal.intToText i).toList

theorem intBytes_negative (h : i < 0) :
    intBytes i = byte '-' :: Utf8.encode (Decimal.digits i.natAbs) := by
  unfold intBytes Decimal.intToText
  rw [if_pos h, String.toList_ofList, Utf8.encode_cons]
  rfl

theorem intBytes_nonneg (h : 0 ≤ i) : intBytes i = Utf8.encode (Decimal.digits i.natAbs) := by
  unfold intBytes Decimal.intToText Decimal.toText
  rw [if_neg (Int.not_lt.mpr h), String.toList_ofList]

/-- A number without a sign starts with a digit. -/
theorem encode_digits_head (n : Nat) :
    ∃ d < 10, ∃ tail, Utf8.encode (Decimal.digits n) = digitByte d :: tail := by
  obtain ⟨ds, hds, hspells⟩ := Decimal.digits_spells n
  have hten := hspells.lt_ten
  rw [hds, encode_digits hten]
  obtain ⟨d, ds, rfl, -⟩ := hspells.head
  exact ⟨d, hten d List.mem_cons_self, ds.map digitByte, rfl⟩

/-- **The two ways in which a number comes.** Behind a minus sign or without one, its digits are read
as the number. -/
theorem intBytes_cases (h : Decimal.isSignedWord i = true) (hrest : EndsNumber rest) :
    (∃ tail, intBytes i ++ rest = byte '-' :: tail ∧ readNumber true tail = .ok (.int i, rest)
        ∧ skipNumber tail = .ok rest)
      ∨ ∃ d < 10, ∃ tail, intBytes i ++ rest = digitByte d :: tail
        ∧ readNumber false (digitByte d :: tail) = .ok (.int i, rest)
        ∧ skipNumber (digitByte d :: tail) = .ok rest := by
  unfold Decimal.isSignedWord at h
  rw [decide_eq_true_eq] at h
  have hword : i.natAbs < Decimal.wordLimit := by
    unfold Decimal.wordLimit
    omega
  by_cases hi : i < 0
  · refine Or.inl ⟨Utf8.encode (Decimal.digits i.natAbs) ++ rest, ?_, ?_,
      skipNumber_digits hrest⟩
    · rw [intBytes_negative hi, List.cons_append]
    · rw [readNumber_digits hword hrest]
      have hwhole : wholeNumber true i.natAbs = .int i := by
        unfold wholeNumber
        rw [if_pos rfl, if_neg (by omega)]
        congr 1
        omega
      rw [hwhole]
  · have hread : readNumber false (Utf8.encode (Decimal.digits i.natAbs) ++ rest)
        = .ok (wholeNumber false i.natAbs, rest) := readNumber_digits hword hrest
    have hskip := skipNumber_digits (n := i.natAbs) hrest
    obtain ⟨d, hd, tail, htail⟩ := encode_digits_head i.natAbs
    rw [htail, List.cons_append] at hread hskip
    have hwhole : wholeNumber false i.natAbs = .int i := by
      show Number.int i.natAbs = .int i
      congr 1
      omega
    rw [hwhole] at hread
    refine Or.inr ⟨d, hd, tail ++ rest, ?_, hread, hskip⟩
    rw [intBytes_nonneg (Int.not_lt.mp hi), htail, List.cons_append]

end SessionAuth.Json
