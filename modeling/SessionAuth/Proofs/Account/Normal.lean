import SessionAuth.Proofs.Account.Email
import SessionAuth.Proofs.Store.Relational
import SessionAuth.Proofs.Text.Spelling

/-!
The normal form of an address is stable.

What an address is like follows from how it was accepted: it has no white space, nothing happens to it
when it is lowered, and it has one `@` with something before it (`Email.Normal`). How it was spelled
does not matter: the same text with other white space around it, or with other capital letters of ASCII,
is read alike, and refused alike (`Email.parse_respelled`). So the address that is stored with a user is
one that the row can be read back with.
-/

set_option autoImplicit false

namespace SessionAuth

open Database (UserRow)

namespace Email

/-- **An address in its normal form.** -/
structure Normal (a : Email) : Prop where
  visible : ∀ c ∈ a.text.toList, Text.isBlank c = false
  small : Text.lower a.text.toList = a.text.toList
  oneSign : a.text.toList.count '@' = 1
  hasLocalPart : ∃ localPart domain, a.text.toList = localPart ++ '@' :: domain ∧ localPart ≠ []

theorem Parts.count_sign {l localPart domain : List Char} (h : Parts l localPart domain) :
    l.count '@' = 1 := by
  rw [h.text, List.count_append, List.count_cons_self,
    List.count_eq_zero.mpr h.sign_notMem_local, List.count_eq_zero.mpr h.sign_notMem_domain]

variable {raw raw' : String} {a : Email}

/-- An accepted address is in its normal form. -/
theorem normal_of_parse (h : parse raw = .ok a) : a.Normal := by
  obtain ⟨htext, localPart, domain, hparts, -⟩ := parse_eq_ok_iff.mp h
  have hp : Parts a.text.toList localPart domain := by
    rw [htext]
    exact parts_of_parts? hparts
  refine ⟨hp.visible, ?_, hp.count_sign, localPart, domain, hp.text, hp.local_ne_nil⟩
  rw [htext]
  exact Text.lower_lower _

/-- **How a text is spelled does not matter** to the address in it, nor to what is wrong with it. -/
theorem parse_respelled (h : Text.Respells raw.toList raw'.toList) : parse raw' = parse raw := by
  have hnormal : normalize raw'.toList = normalize raw.toList := h.lower_trim
  unfold parse
  rw [hnormal]

/-- A row with an address that was accepted can be read back, with this address. -/
theorem readUser_of_parse {row : UserRow} (h : parse raw = .ok a) (hrow : row.email = a.text) :
    ∃ user, Relational.readUser row.cells = .ok user ∧ user.email = a := by
  rw [Relational.readUser_cells, Relational.loadRow, hrow, parse_text h]
  exact ⟨_, rfl, rfl⟩

/-- **Accepting an address is stable.** The address that is accepted is accepted again and stays what it
is; it is in its normal form; every other spelling of the text leads to it; and so it is read back from
every row that holds it. -/
theorem accepted_stable (h : parse raw = .ok a) :
    parse a.text = .ok a ∧ a.Normal
      ∧ (∀ raw' : String, Text.Respells raw.toList raw'.toList → parse raw' = .ok a)
      ∧ ∀ row : UserRow, row.email = a.text →
          ∃ user, Relational.readUser row.cells = .ok user ∧ user.email = a := by
  refine ⟨parse_text h, normal_of_parse h, fun raw' hraw' => ?_, fun row hrow => ?_⟩
  · rw [parse_respelled hraw', h]
  · exact readUser_of_parse h hrow

/-- The capital sigma at the end of a word becomes another letter than the one at its start; the address
has both, and other white space and capitals around them lead to it as well. -/
theorem accepted_stable_sigma :
    parse " Ada.ΣΑΣ@Example.COM" = .ok ⟨"ada.σας@example.com"⟩
      ∧ parse "ada.σας@example.com" = .ok ⟨"ada.σας@example.com"⟩
      ∧ parse "\t aDA.ΣΑΣ@eXAMPLE.com\u3000" = .ok ⟨"ada.σας@example.com"⟩ := by
  have h : parse " Ada.ΣΑΣ@Example.COM" = .ok ⟨"ada.σας@example.com"⟩ := by decide +kernel
  have hrespells : Text.Respells " Ada.ΣΑΣ@Example.COM".toList
      "\t aDA.ΣΑΣ@eXAMPLE.com\u3000".toList :=
    ⟨['\t'], " aDA.ΣΑΣ@eXAMPLE.com".toList, ['\u3000'], by decide, by simp [Text.isBlank],
      by simp [Text.isBlank], by decide⟩
  obtain ⟨hagain, -, hspelled, -⟩ := accepted_stable h
  exact ⟨h, hagain, hspelled _ hrespells⟩

end Email

end SessionAuth
