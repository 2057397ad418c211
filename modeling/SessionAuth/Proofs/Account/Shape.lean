import Mathlib.Data.List.Basic
import SessionAuth.Proofs.Account.Email
import SessionAuth.Proofs.Result

/-!
The shape of accepted addresses.

An address is to be shaped `local@domain.tld`: one `@`, something before it, and behind it labels
between dots, at least two and none of them empty (`Email.HasShape`). The first look at an address asks
only for a dot inside the domain, and leaves the rest to the grammar of mailboxes. That is enough for
labels, each of which has to start and end with a letter or a digit. It is not enough for literals: the
grammar admits text in brackets as a domain, and the dot may stand between the brackets.

So the accepted addresses that are not of this shape are exactly those with a literal
(`Email.shape_or_literal`), and there are some (`Email.literal_accepted`).
-/

set_option autoImplicit false

namespace SessionAuth

/-! ## Pieces between dots -/

namespace Mailbox

theorem splitAtDots_ne_nil (l : List Char) : splitAtDots l ≠ [] := by
  cases l with
  | nil => nofun
  | cons c rest =>
    rw [splitAtDots]
    split
    · nofun
    · split <;> nofun

/-- A dot starts a piece. -/
theorem splitAtDots_dot (rest : List Char) :
    splitAtDots ('.' :: rest) = [] :: splitAtDots rest := if_pos rfl

/-- Any other character belongs to the first piece of what is behind it. -/
theorem exists_splitAtDots_cons {c : Char} (hc : c ≠ '.') (rest : List Char) :
    ∃ first others, splitAtDots rest = first :: others
      ∧ splitAtDots (c :: rest) = (c :: first) :: others := by
  obtain ⟨first, others, hrest⟩ := List.exists_cons_of_ne_nil (splitAtDots_ne_nil rest)
  refine ⟨first, others, hrest, ?_⟩
  rw [splitAtDots, if_neg hc, hrest]

theorem splitAtDots_eq_splitOn (l : List Char) : splitAtDots l = l.splitOn '.' := by
  induction l with
  | nil => rfl
  | cons c rest ih =>
    rw [List.splitOn_cons_eq_if_modifyHead, ← ih]
    by_cases hc : c = '.'
    · rw [if_pos (beq_iff_eq.mpr hc), hc, splitAtDots_dot]
    · obtain ⟨first, others, hrest, hcons⟩ := exists_splitAtDots_cons hc rest
      rw [if_neg (mt beq_iff_eq.mp hc), hcons, hrest, List.modifyHead_cons]

/-- The pieces are what the text is joined from. -/
theorem intercalate_splitAtDots (l : List Char) : ['.'].intercalate (splitAtDots l) = l := by
  rw [splitAtDots_eq_splitOn, List.intercalate_splitOn]

/-- There is one piece more than there are dots. -/
theorem length_splitAtDots (l : List Char) : (splitAtDots l).length = l.count '.' + 1 := by
  induction l with
  | nil => rfl
  | cons c rest ih =>
    by_cases hc : c = '.'
    · rw [hc, splitAtDots_dot, List.length_cons, ih, List.count_cons_self]
    · obtain ⟨first, others, hrest, hcons⟩ := exists_splitAtDots_cons hc rest
      rw [hrest] at ih
      rw [hcons, List.count_cons_of_ne hc]
      exact ih

theorem dot_notMem_of_mem_splitAtDots {l piece : List Char} (h : piece ∈ splitAtDots l) :
    '.' ∉ piece := by
  induction l generalizing piece with
  | nil =>
    rw [List.mem_singleton.mp h]
    exact List.not_mem_nil
  | cons c rest ih =>
    by_cases hc : c = '.'
    · rw [hc, splitAtDots_dot] at h
      rcases List.mem_cons.mp h with rfl | h
      · exact List.not_mem_nil
      · exact ih h
    · obtain ⟨first, others, hrest, hcons⟩ := exists_splitAtDots_cons hc rest
      rw [hcons] at h
      rw [hrest] at ih
      rcases List.mem_cons.mp h with rfl | h
      · exact List.not_mem_cons_of_ne_of_not_mem (Ne.symm hc) (ih List.mem_cons_self)
      · exact ih (List.mem_cons_of_mem _ h)

/-! ## Domains -/

/-- **A literal**: text in brackets. -/
def IsLiteral (domain : List Char) : Prop := ∃ inner, domain = '[' :: (inner ++ [']'])

/-- **A name of a domain**: at least two labels between dots, none of them empty, and no literal. -/
structure IsName (domain : List Char) : Prop where
  labels : ∃ labels : List (List Char), domain = ['.'].intercalate labels ∧ 2 ≤ labels.length
    ∧ ∀ label ∈ labels, label ≠ [] ∧ '.' ∉ label
  notLiteral : ¬IsLiteral domain

theorem isLiteral_iff {l : List Char} : IsLiteral l ↔ isEnclosed '[' ']' l = true := by
  unfold isEnclosed
  rw [Bool.and_eq_true, beq_iff_eq, beq_iff_eq]
  constructor
  · rintro ⟨inner, rfl⟩
    exact ⟨rfl, List.getLast?_concat (l := '[' :: inner)⟩
  · rintro ⟨hfirst, hlast⟩
    obtain ⟨behind, rfl⟩ := List.head?_eq_some_iff.mp hfirst
    -- one bracket is not the other, so that the last character is one behind the first
    cases behind using List.reverseRecOn with
    | nil => cases hlast
    | append_singleton inner c _ =>
      rw [← List.cons_append, List.getLast?_concat] at hlast
      exact ⟨inner, by rw [Option.some.inj hlast]⟩

theorem checkLabel_nonempty {l : List Char} (h : checkLabel l = .ok ()) : l ≠ [] := by
  rintro rfl
  cases h

theorem checkLabel_of_checkLabels {labels : List (List Char)} (h : checkLabels labels = .ok ()) :
    ∀ label ∈ labels, checkLabel label = .ok () := by
  induction labels with
  | nil => exact fun _ hmem => absurd hmem List.not_mem_nil
  | cons first others ih =>
    obtain ⟨⟨⟩, hfirst, hothers⟩ := bind_eq_ok h
    intro label hmem
    rcases List.mem_cons.mp hmem with rfl | hmem
    · exact hfirst
    · exact ih hothers label hmem

/-- What is between the brackets of a domain are characters of a literal. -/
theorem literalChars_of_checkDomain {inner : List Char}
    (h : checkDomain ('[' :: (inner ++ [']'])) = .ok ()) : ∀ c ∈ inner, isLiteralChar c = true := by
  unfold checkDomain at h
  split at h
  · cases h
  rw [if_pos (isLiteral_iff.mp ⟨inner, rfl⟩)] at h
  have hinner : (List.drop 1 ('[' :: (inner ++ [']']))).dropLast = inner := List.dropLast_concat
  split at h
  · rename_i hall
    rw [hinner] at hall
    exact List.all_eq_true.mp hall
  · cases h

/-- A domain that is no literal consists of labels, of which there are two where there is a dot. -/
theorem isName_of_checkDomain {l : List Char} (h : checkDomain l = .ok ()) (hdot : '.' ∈ l)
    (hname : ¬IsLiteral l) : IsName l := by
  unfold checkDomain at h
  split at h
  · cases h
  rw [if_neg (mt isLiteral_iff.mpr hname)] at h
  refine ⟨⟨splitAtDots l, (intercalate_splitAtDots l).symm, ?_, fun label hlabel => ?_⟩, hname⟩
  · have hcount := List.count_pos_iff.mpr hdot
    rw [length_splitAtDots]
    omega
  · exact ⟨checkLabel_nonempty (checkLabel_of_checkLabels h label hlabel),
      dot_notMem_of_mem_splitAtDots hlabel⟩

theorem checkDomain_of_check {localPart domain : List Char}
    (h : check localPart domain = .ok ()) : checkDomain domain = .ok () := by
  unfold check at h
  dsimp only at h
  split at h
  · cases h
  · obtain ⟨⟨⟩, -, h⟩ := bind_eq_ok h
    exact h

end Mailbox

/-! ## Addresses -/

namespace Email

open Mailbox (IsLiteral IsName isLiteralChar)

/-- **The shape `local@domain.tld`**: something, an `@`, and a name of a domain. -/
def HasShape (a : Email) : Prop :=
  ∃ localPart domain, a.text.toList = localPart ++ '@' :: domain ∧ localPart ≠ []
    ∧ '@' ∉ localPart ∧ '@' ∉ domain ∧ IsName domain

/-- **The domain of an address is a literal.** -/
def HasLiteral (a : Email) : Prop :=
  ∃ localPart domain, a.text.toList = localPart ++ '@' :: domain ∧ IsLiteral domain

theorem dot_mem_of_hasInnerDot {domain : List Char} (h : hasInnerDot domain = true) :
    '.' ∈ domain :=
  List.mem_of_mem_drop (List.dropLast_subset _ (List.contains_iff_mem.mp h))

/-- The dot inside a literal is between the brackets. -/
theorem hasInnerDot_literal {inner : List Char} :
    hasInnerDot ('[' :: (inner ++ [']'])) = true ↔ '.' ∈ inner := by
  have hinner : (List.drop 1 ('[' :: (inner ++ [']']))).dropLast = inner := List.dropLast_concat
  rw [hasInnerDot, hinner, List.contains_iff_mem]

variable {raw : String} {a : Email}

/-- The two parts of an accepted address, of which the second one has passed as a domain. -/
theorem parts_of_parse (h : parse raw = .ok a) :
    ∃ localPart domain, Parts a.text.toList localPart domain
      ∧ Mailbox.checkDomain domain = .ok () := by
  obtain ⟨htext, localPart, domain, hparts, hcheck⟩ := parse_eq_ok_iff.mp h
  rw [htext]
  exact ⟨localPart, domain, parts_of_parts? hparts, Mailbox.checkDomain_of_check hcheck⟩

/-- The parts of a text that has one `@` are its only parts. -/
theorem Parts.unique {l localPart localPart' domain domain' : List Char}
    (h : Parts l localPart domain) (htext : l = localPart' ++ '@' :: domain') :
    localPart' = localPart ∧ domain' = domain := by
  obtain ⟨hlocal, -, hdomain⟩ := (List.append_cons_inj_of_notMem h.sign_notMem_local
    h.sign_notMem_domain).mp (h.text.symm.trans htext)
  exact ⟨hlocal.symm, hdomain.symm⟩

/-- An accepted address has not the shape if its domain is a literal. -/
theorem not_hasShape_of_hasLiteral (h : parse raw = .ok a) (hliteral : a.HasLiteral) :
    ¬a.HasShape := by
  obtain ⟨localPart, domain, hparts, -⟩ := parts_of_parse h
  obtain ⟨_, _, htext, hdomain⟩ := hliteral
  rintro ⟨_, _, htext', -, -, -, hname⟩
  obtain ⟨rfl, rfl⟩ := hparts.unique htext
  obtain ⟨rfl, rfl⟩ := hparts.unique htext'
  exact hname.notLiteral hdomain

/-- It has the shape otherwise: a name is all that a domain can be that is no literal. -/
theorem hasShape_of_not_hasLiteral (h : parse raw = .ok a) (hname : ¬a.HasLiteral) :
    a.HasShape := by
  obtain ⟨localPart, domain, hparts, hdomain⟩ := parts_of_parse h
  have hnot : ¬IsLiteral domain := fun hliteral => hname ⟨localPart, domain, hparts.text, hliteral⟩
  exact ⟨localPart, domain, hparts.text, hparts.local_ne_nil, hparts.sign_notMem_local,
    hparts.sign_notMem_domain,
    Mailbox.isName_of_checkDomain hdomain (dot_mem_of_hasInnerDot hparts.innerDot) hnot⟩

/-- **An accepted address has the shape `local@domain.tld` exactly if its domain is no literal.** In
either case it has one `@`, with something before it; and a literal has a dot between its brackets. -/
theorem shape_or_literal (h : parse raw = .ok a) :
    (∃ localPart domain, a.text.toList = localPart ++ '@' :: domain ∧ localPart ≠ []
        ∧ '@' ∉ localPart ∧ '@' ∉ domain)
      ∧ (a.HasShape ↔ ¬a.HasLiteral)
      ∧ ∀ localPart inner, a.text.toList = localPart ++ '@' :: '[' :: (inner ++ [']']) →
          '.' ∈ inner ∧ ∀ c ∈ inner, isLiteralChar c = true := by
  obtain ⟨localPart, domain, hparts, hdomain⟩ := parts_of_parse h
  refine ⟨⟨localPart, domain, hparts.text, hparts.local_ne_nil, hparts.sign_notMem_local,
    hparts.sign_notMem_domain⟩, ⟨fun hshape hliteral => ?_, hasShape_of_not_hasLiteral h⟩, ?_⟩
  · exact not_hasShape_of_hasLiteral h hliteral hshape
  · intro localPart' inner htext
    obtain ⟨rfl, rfl⟩ := hparts.unique htext
    exact ⟨hasInnerDot_literal.mp hparts.innerDot, Mailbox.literalChars_of_checkDomain hdomain⟩

/-- A name, and a literal without a single label. -/
theorem shape_or_literal_both :
    (parse "Ada@Example.co.UK" = .ok ⟨"ada@example.co.uk"⟩ ∧ HasShape ⟨"ada@example.co.uk"⟩)
      ∧ parse "ada@[..]" = .ok ⟨"ada@[..]"⟩ ∧ ¬HasShape ⟨"ada@[..]"⟩ := by
  have hname : parse "Ada@Example.co.UK" = .ok ⟨"ada@example.co.uk"⟩ := by decide +kernel
  have hliteral : parse "ada@[..]" = .ok ⟨"ada@[..]"⟩ := by decide +kernel
  refine ⟨⟨hname, (shape_or_literal hname).2.1.mpr ?_⟩, hliteral, fun hshape => ?_⟩
  · rintro ⟨localPart, _, htext, inner, rfl⟩
    -- a text that ends in a letter does not end in a bracket
    have hlast := congrArg List.getLast? htext
    rw [← List.cons_append, ← List.cons_append, ← List.append_assoc, List.getLast?_concat] at hlast
    exact absurd hlast (by decide)
  · exact (shape_or_literal hliteral).2.1.mp hshape
      ⟨"ada".toList, "[..]".toList, rfl, "..".toList, rfl⟩

/-- **An address with a literal is accepted**, an internet address in brackets as well as brackets with
nothing but dots between them: neither has the shape `local@domain.tld`. -/
theorem literal_accepted :
    (parse "a@[127.0.0.1]" = .ok ⟨"a@[127.0.0.1]"⟩ ∧ ¬HasShape ⟨"a@[127.0.0.1]"⟩)
      ∧ parse "a@[..]" = .ok ⟨"a@[..]"⟩ ∧ ¬HasShape ⟨"a@[..]"⟩ := by
  have haddress : parse "a@[127.0.0.1]" = .ok ⟨"a@[127.0.0.1]"⟩ := by decide +kernel
  have hdots : parse "a@[..]" = .ok ⟨"a@[..]"⟩ := by decide +kernel
  refine ⟨⟨haddress, not_hasShape_of_hasLiteral haddress ?_⟩, hdots,
    not_hasShape_of_hasLiteral hdots ?_⟩
  · exact ⟨['a'], "[127.0.0.1]".toList, rfl, "127.0.0.1".toList, rfl⟩
  · exact ⟨['a'], "[..]".toList, rfl, "..".toList, rfl⟩

end Email

end SessionAuth
