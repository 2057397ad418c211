import SessionAuth.Account.Email
import SessionAuth.Proofs.Text.Blank
import SessionAuth.Proofs.Text.LowerCase

/-!
What an accepted address is.

A text is accepted if its normal form has two parts that are a mailbox, and the address is then the
normal form itself (`parse_eq_ok_iff`). So reading it again leads to the same address: addresses are
read twice in their lives, when they are presented and when a row is loaded, and the second reading must
not change what the first one has left, or a user would be stored under one address and loaded with
another.
-/

set_option autoImplicit false

namespace SessionAuth

namespace Email

/-! ## The parts of a text -/

/-- What is ahead of the first `@`, and what is behind it. -/
theorem splitAtSign?_eq_some {l : List Char} {p : List Char × List Char}
    (h : splitAtSign? l = some p) : l = p.1 ++ '@' :: p.2 ∧ '@' ∉ p.1 := by
  fun_induction splitAtSign? l generalizing p with
  | case1 => cases h
  | case2 rest =>
    obtain rfl := Option.some.inj h
    exact ⟨rfl, List.not_mem_nil⟩
  | case3 c rest hc ih =>
    obtain ⟨q, hq, rfl⟩ := Option.map_eq_some_iff.mp h
    obtain ⟨hrest, hnone⟩ := ih hq
    exact ⟨congrArg (c :: ·) hrest, List.not_mem_cons_of_ne_of_not_mem (Ne.symm hc) hnone⟩

/-- **Two parts of a text that has the shape of an address**: there is no white space in the text, the one
`@` has something before it, and a dot stands inside what is behind it. -/
structure Parts (l localPart domain : List Char) : Prop where
  text : l = localPart ++ '@' :: domain
  visible : ∀ c ∈ l, Text.isBlank c = false
  sign_notMem_local : '@' ∉ localPart
  sign_notMem_domain : '@' ∉ domain
  local_ne_nil : localPart ≠ []
  innerDot : hasInnerDot domain = true

theorem parts_of_parts? {l localPart domain : List Char}
    (h : parts? l = some (localPart, domain)) : Parts l localPart domain := by
  unfold parts? at h
  obtain ⟨⟨localPart', domain'⟩, hsplit, h⟩ := Option.bind_eq_some_iff.mp h
  dsimp only at h
  split at h
  · rename_i hshape
    obtain ⟨rfl, rfl⟩ := Prod.mk.inj (Option.some.inj h)
    obtain ⟨htext, hlocal⟩ := splitAtSign?_eq_some hsplit
    simp only [Bool.and_eq_true, Bool.not_eq_true', List.any_eq_false, Bool.not_eq_true,
      List.isEmpty_eq_false_iff, List.contains_eq_mem, decide_eq_false_iff_not] at hshape
    obtain ⟨⟨⟨hvisible, hne⟩, hdomain⟩, hdot⟩ := hshape
    exact ⟨htext, hvisible, hlocal, hdomain, hne, hdot⟩
  · cases h

/-! ## Reading -/

/-- **What is accepted as an address**: a text whose normal form has two parts that are a mailbox. The
address is this normal form. -/
theorem parse_eq_ok_iff {raw : String} {email : Email} :
    parse raw = .ok email
      ↔ email.text.toList = normalize raw.toList
        ∧ ∃ localPart domain, parts? (normalize raw.toList) = some (localPart, domain)
          ∧ Mailbox.check localPart domain = .ok () := by
  unfold parse
  dsimp only
  generalize normalize raw.toList = normal
  constructor
  · intro h
    split at h
    · cases h
    split at h
    · cases h
    · rename_i localPart domain hparts
      split at h
      · cases h
      · rename_i hcheck
        obtain rfl := Except.ok.inj h
        exact ⟨String.toList_ofList, localPart, domain, hparts, hcheck⟩
  · rintro ⟨htext, localPart, domain, hparts, hcheck⟩
    have hne : ¬normal.isEmpty = true := by
      intro hempty
      rw [List.isEmpty_iff.mp hempty] at hparts
      cases hparts
    rw [if_neg hne, hparts]
    simp only [hcheck, ← htext, String.ofList_toList]

/-- The normal form of an address is the address. -/
theorem normalize_text {raw : String} {email : Email} (h : parse raw = .ok email) :
    normalize email.text.toList = email.text.toList := by
  obtain ⟨htext, localPart, domain, hparts, -⟩ := parse_eq_ok_iff.mp h
  rw [htext, normalize, Text.trim_of_visible (parts_of_parts? hparts).visible]
  exact Text.lower_lower _

/-- **Reading an accepted address again leads to the same address.** -/
theorem parse_text {raw : String} {email : Email} (h : parse raw = .ok email) :
    parse email.text = .ok email := by
  obtain ⟨htext, hparts⟩ := parse_eq_ok_iff.mp h
  rw [← htext, ← normalize_text h] at hparts
  exact parse_eq_ok_iff.mpr ⟨(normalize_text h).symm, hparts⟩

end Email

end SessionAuth
