import SessionAuth.Proofs.Encoding.Base64
import SessionAuth.Session.Secret

/-!
Refresh secrets as texts.

A secret is the text of the bytes that are drawn, in letters, digits and two more signs. The bytes can be
read back from it (`decode_ofBytes`), so that other bytes have another secret, and nothing in it is white
space (`visible_of_mem`), which a client may have put around it.
-/

set_option autoImplicit false

namespace SessionAuth.RefreshSecret

variable {b : Bytes} {c : Char}

/-- The signs of secrets: letters, digits, the hyphen and the low line. -/
def IsSign (c : Char) : Prop :=
  'A' ≤ c ∧ c ≤ 'Z' ∨ 'a' ≤ c ∧ c ≤ 'z' ∨ '0' ≤ c ∧ c ≤ '9' ∨ c = '-' ∨ c = '_'

instance (c : Char) : Decidable (IsSign c) := inferInstanceAs (Decidable (_ ∨ _))

theorem isSign_symbol {n : Nat} (h : n < 64) : IsSign (Base64.Alphabet.urlSafe.symbol n) := by
  revert n
  decide

theorem toList_ofBytes (b : Bytes) : (ofBytes b).toList = Base64.encode .urlSafe b :=
  String.toList_ofList

theorem isSign_of_mem (h : c ∈ (ofBytes b).toList) : IsSign c := by
  rw [toList_ofBytes] at h
  obtain ⟨n, hn, rfl⟩ := Base64.mem_encode h
  exact isSign_symbol hn

theorem visible_of_mem (h : c ∈ (ofBytes b).toList) : Text.isBlank c = false := by
  rw [toList_ofBytes] at h
  exact Base64.visible_of_mem_encode h

/-- Of the last three signs, the last one stands for four bits only. -/
theorem length_ofBytes (h : b.length = byteCount) : (ofBytes b).length = 43 := by
  rw [← String.length_toList, toList_ofBytes, Base64.length_encode, h]
  rfl

/-- **The bytes can be read back.** -/
theorem decode_ofBytes (b : Bytes) :
    Base64.decode .urlSafe (Utf8.ofString (ofBytes b)) = .ok b := by
  rw [Utf8.ofString, toList_ofBytes]
  exact Base64.decode_encode b

theorem ofBytes_injective : Function.Injective ofBytes := by
  intro b b' h
  have hread := decode_ofBytes b
  rw [h, decode_ofBytes] at hread
  exact (Except.ok.inj hread).symm

/-- The secret of the bytes that are drawn. -/
theorem draw?_of_draw? {r rest : RandomSource} (h : r.draw? byteCount = some (b, rest)) :
    draw? r = some (ofBytes b, rest) := by
  rw [draw?, h]
  rfl

end SessionAuth.RefreshSecret
