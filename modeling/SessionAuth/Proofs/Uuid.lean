import SessionAuth.Proofs.Text.Utf8
import SessionAuth.Account.User

/-!
Identifiers that are written read back.

An identifier is put into access tokens as text and taken out of them again, and the text that is
written is one of four forms that reading accepts. The form is told by the length in bytes, the hyphens
have to stand where they were written, and what is left behind them are the digits.
-/

set_option autoImplicit false

namespace SessionAuth

/-! ## Digits -/

namespace Hex

variable {b : Bytes} {c : Char}

/-- What is written are digits: ASCII characters, and no hyphens. -/
theorem mem_encode (h : c ∈ encode b) : ∃ n < 16, c = digit n := by
  obtain ⟨x, -, hx⟩ := List.mem_flatMap.mp h
  have hbyte : x.toNat < 256 := x.toNat_lt
  simp only [ofByte, List.mem_cons, List.not_mem_nil, or_false] at hx
  rcases hx with rfl | rfl
  · exact ⟨x.toNat / 16, by omega, rfl⟩
  · exact ⟨x.toNat % 16, by omega, rfl⟩

theorem encode_ascii (h : c ∈ encode b) : c.toNat < 0x80 := by
  have hall : ∀ n < 16, (digit n).toNat < 0x80 := by decide
  obtain ⟨n, hn, rfl⟩ := mem_encode h
  exact hall n hn

theorem ne_hyphen_of_mem (h : c ∈ encode b) : c ≠ '-' := by
  have hall : ∀ n < 16, digit n ≠ '-' := by decide
  obtain ⟨n, hn, rfl⟩ := mem_encode h
  exact hall n hn

theorem length_encode (b : Bytes) : (encode b).length = 2 * b.length := by
  induction b with
  | nil => rfl
  | cons x b ih =>
    rw [encode_cons, List.length_append, ih, List.length_cons]
    show 2 + _ = _
    omega

theorem encode_append (a b : Bytes) : encode (a ++ b) = encode a ++ encode b :=
  List.flatMap_append

end Hex

namespace Uuid

/-! ## Hyphens -/

theorem hyphensFrom_append (n : Nat) (l l' : List Char) :
    hyphensFrom n (l ++ l') = hyphensFrom n l ++ hyphensFrom (n + l.length) l' := by
  induction l generalizing n with
  | nil => rfl
  | cons c l ih =>
    rw [List.cons_append, hyphensFrom, hyphensFrom, ih, List.length_cons, Nat.add_assoc,
      Nat.add_comm 1]
    split
    · rfl
    · rfl

/-- A group of digits has no hyphen in it. -/
theorem hyphensFrom_encode (n : Nat) (b : Bytes) : hyphensFrom n (Hex.encode b) = [] := by
  have hnone : ∀ (l : List Char) (n : Nat), (∀ c ∈ l, c ≠ '-') → hyphensFrom n l = [] := by
    intro l
    induction l with
    | nil => exact fun _ _ => rfl
    | cons c l ih =>
      intro n h
      rw [hyphensFrom, if_neg (h c List.mem_cons_self)]
      exact ih (n + 1) fun d hd => h d (List.mem_cons_of_mem c hd)
  exact hnone _ n fun _ => Hex.ne_hyphen_of_mem

/-- A hyphen behind a group of digits stands where the group ends. -/
theorem hyphensFrom_group (n : Nat) (b : Bytes) (l : List Char) :
    hyphensFrom n (Hex.encode b ++ '-' :: l)
      = (n + 2 * b.length) :: hyphensFrom (n + 2 * b.length + 1) l := by
  rw [hyphensFrom_append, hyphensFrom_encode, Hex.length_encode, List.nil_append, hyphensFrom,
    if_pos rfl]

theorem filter_encode (b : Bytes) : (Hex.encode b).filter (· != '-') = Hex.encode b :=
  List.filter_eq_self.mpr fun _ hc => bne_iff_ne.mpr (Hex.ne_hyphen_of_mem hc)

theorem filter_group (b : Bytes) (l : List Char) :
    (Hex.encode b ++ '-' :: l).filter (· != '-')
      = Hex.encode b ++ l.filter (· != '-') := by
  rw [List.filter_append, filter_encode, List.filter_cons_of_neg (by decide)]

/-! ## Groups -/

variable (u : Uuid)

/-- Some of the bytes, from a first one on. -/
theorem length_part {first count : Nat} (h : first + count ≤ 16) :
    ((u.bytes.drop first).take count).length = count := by
  rw [List.length_take, List.length_drop, u.length_bytes]
  omega

/-- The groups, from the first one on. -/
theorem toChars_eq : u.toChars
    = Hex.encode ((u.bytes.drop 0).take 4) ++ '-' :: (Hex.encode ((u.bytes.drop 4).take 2)
      ++ '-' :: (Hex.encode ((u.bytes.drop 6).take 2) ++ '-' :: (Hex.encode ((u.bytes.drop 8).take 2)
      ++ '-' :: Hex.encode ((u.bytes.drop 10).take 6)))) := by
  unfold toChars
  simp only [List.append_assoc, List.cons_append]

theorem hyphens_toChars : hyphens u.toChars = [8, 13, 18, 23] := by
  rw [hyphens, u.toChars_eq, hyphensFrom_group, hyphensFrom_group, hyphensFrom_group, hyphensFrom_group,
    hyphensFrom_encode, u.length_part (by decide), u.length_part (by decide),
    u.length_part (by decide), u.length_part (by decide)]

/-- Without the hyphens, the groups are all digits in a row. -/
theorem filter_toChars : u.toChars.filter (· != '-') = Hex.encode u.bytes := by
  have hdrop : ∀ first count, (u.bytes.drop first).take count ++ u.bytes.drop (first + count)
      = u.bytes.drop first := by
    intro first count
    rw [← List.drop_drop, List.take_append_drop]
  have hlast : (u.bytes.drop 10).take 6 = u.bytes.drop 10 := by
    have hlength : u.bytes.length = 16 := u.length_bytes
    apply List.take_of_length_le
    rw [List.length_drop]
    omega
  rw [u.toChars_eq, filter_group, filter_group, filter_group, filter_group, filter_encode, hlast,
    ← Hex.encode_append, hdrop 8 2, ← Hex.encode_append, hdrop 6 2, ← Hex.encode_append, hdrop 4 2,
    ← Hex.encode_append, hdrop 0 4]
  rfl

theorem length_toChars : u.toChars.length = 36 := by
  rw [u.toChars_eq]
  simp only [List.length_append, List.length_cons, Hex.length_encode]
  rw [u.length_part (by decide), u.length_part (by decide), u.length_part (by decide),
    u.length_part (by decide), u.length_part (by decide)]

theorem toChars_ascii {c : Char} (h : c ∈ u.toChars) : c.toNat < 0x80 := by
  rw [u.toChars_eq] at h
  simp only [List.mem_append, List.mem_cons] at h
  have hhyphen : '-'.toNat < 0x80 := by decide
  rcases h with h | rfl | h | rfl | h | rfl | h | rfl | h
  · exact Hex.encode_ascii h
  · exact hhyphen
  · exact Hex.encode_ascii h
  · exact hhyphen
  · exact Hex.encode_ascii h
  · exact hhyphen
  · exact Hex.encode_ascii h
  · exact hhyphen
  · exact Hex.encode_ascii h

/-! ## Reading back -/

theorem ofDigits?_encode : ofDigits? (Hex.encode u.bytes) = some u := by
  unfold ofDigits?
  rw [Hex.decode?_encode]
  exact dif_pos u.length_bytes

/-- **An identifier that is written reads back.** -/
theorem parse_toText : parse u.toText = .ok u := by
  have hlength : (Utf8.encode u.toChars).length = 36 := by
    rw [Utf8.encode_ascii fun _ => u.toChars_ascii, List.length_map, u.length_toChars]
  have hgrouped : parseGrouped? u.toChars = some u := by
    unfold parseGrouped?
    rw [if_pos u.hyphens_toChars, u.filter_toChars, u.ofDigits?_encode]
  unfold parse toText
  rw [String.toList_ofList]
  dsimp only
  rw [hlength, if_neg (by decide), if_neg (by decide), if_pos rfl, hgrouped]
  rfl

end Uuid

theorem UserId.parse_toText (u : UserId) : UserId.parse u.toText = .ok u := by
  unfold UserId.parse UserId.toText
  rw [Uuid.parse_toText]
  rfl

end SessionAuth
