import SessionAuth.Account.Mailbox
import SessionAuth.Text.Blank
import SessionAuth.Text.LowerCase

/-!
Email addresses in their normal form: without white space around them and in small letters.

An address has the shape `local@domain.tld`: no white space, one `@` with something before it, and a
dot inside the domain. It is then checked against the grammar of mailboxes.
-/

set_option autoImplicit false

namespace SessionAuth

/-- An address in its normal form. -/
structure Email where
  text : String
  deriving DecidableEq, Repr

namespace Email

/-- Why a text is no address. -/
inductive Flaw where
  /-- Nothing is left without white space. -/
  | empty
  /-- The normal form has not the shape of an address. -/
  | shape (normal : String)
  /-- The parts of the address are no mailbox. -/
  | mailbox (flaw : Mailbox.Flaw)
  deriving DecidableEq, Repr

/-- The wording of a cause. -/
def Flaw.message : Flaw → String
  | .empty => "Email is empty"
  | .shape normal => "Invalid email format: " ++ normal
  | .mailbox flaw => "Invalid email format: " ++ flaw.message

/-- The normal form of a text. -/
def normalize (l : List Char) : List Char := Text.lower (Text.trim l)

/-- The text before the first `@`, and the text behind it. -/
def splitAtSign? : List Char → Option (List Char × List Char)
  | [] => none
  | '@' :: rest => some ([], rest)
  | c :: rest => (splitAtSign? rest).map fun p => (c :: p.1, p.2)

/-- Whether a dot stands behind the first character and before the last one. -/
def hasInnerDot (domain : List Char) : Bool := (domain.drop 1).dropLast.contains '.'

/-- The parts of a text that has the shape of an address. -/
def parts? (l : List Char) : Option (List Char × List Char) := do
  let (localPart, domain) ← splitAtSign? l
  if !l.any Text.isBlank && !localPart.isEmpty && !domain.contains '@' && hasInnerDot domain then
    some (localPart, domain)
  else none

/-- Reads an address. -/
def parse (raw : String) : Except Flaw Email :=
  let normal := normalize raw.toList
  let text := String.ofList normal
  if normal.isEmpty then .error .empty
  else match parts? normal with
    | none => .error (.shape text)
    | some (localPart, domain) =>
      match Mailbox.check localPart domain with
      | .error flaw => .error (.mailbox flaw)
      | .ok () => .ok ⟨text⟩

end Email

end SessionAuth
