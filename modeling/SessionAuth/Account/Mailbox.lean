import SessionAuth.Text.LetterOrDigit
import SessionAuth.Text.Utf8

/-!
The grammar of a mailbox: a local part and a domain.

The local part is a list of atoms between dots, or quoted text. The domain is a list of labels between
dots, each of which starts and ends with a letter or a digit, or a literal in brackets. Lengths are
counted in bytes.
-/

set_option autoImplicit false

namespace SessionAuth.Mailbox

/-- Why a local part and a domain are no mailbox. -/
inductive Flaw where
  /-- The local part starts like an address behind a display name. -/
  | missingDisplayName
  | localPartEmpty
  | localPartTooLong
  | domainTooLong
  | labelEmpty
  | labelTooLong
  | character
  deriving DecidableEq, Repr

/-- Most bytes of a local part. -/
def localPartLimit : Nat := 64

/-- Most bytes of a domain. -/
def domainLimit : Nat := 254

/-- Most bytes of a label. -/
def labelLimit : Nat := 63

/-- The wording of a cause. -/
def Flaw.message : Flaw → String
  | .missingDisplayName => "Display name was not supplied, but email starts with '<'."
  | .localPartEmpty => "Local part is empty."
  | .localPartTooLong => "Local part is too long. Length limit: 64"
  | .domainTooLong => "Domain is too long. Length limit: 254"
  | .labelEmpty => "A sub-domain is empty."
  | .labelTooLong => "A sub-domain is too long. Length limit: 63"
  | .character => "Invalid character."

/-! ## Characters -/

/-- Whether the two low bytes of a character's number form a pair from `c280` to `dfbf`. Such
characters are admitted everywhere. -/
def isPaired (c : Char) : Bool :=
  let n := c.toNat
  let high := n / 256
  let low := n % 256
  0xc2 ≤ high && high ≤ 0xdf && 0x80 ≤ low && low ≤ 0xbf

/-- The signs that may stand in an atom. -/
def atomSigns : List Char := "!#$%&'*+-/=?^_\x60\x7b|\x7d~".toList

/-- Whether a character may stand in an atom. -/
def isAtomChar (c : Char) : Bool :=
  Text.isLetterOrDigit c || atomSigns.contains c || isPaired c

/-- Whether a character may stand in quoted text without a backslash. -/
def isQuotedChar (c : Char) : Bool :=
  let n := c.toNat
  n == 0x20 || n == 0x09 || n == 0x21 || (0x23 ≤ n && n ≤ 0x5b) || (0x5d ≤ n && n ≤ 0x7e) ||
    isPaired c

/-- Whether a character may stand behind a backslash. -/
def isEscapable (c : Char) : Bool := 0x21 ≤ c.toNat && c.toNat ≤ 0x7e

/-- Whether a character may stand in a literal. -/
def isLiteralChar (c : Char) : Bool :=
  let n := c.toNat
  (0x21 ≤ n && n ≤ 0x5a) || (0x5e ≤ n && n ≤ 0x7e) || isPaired c

/-! ## Parts -/

/-- The pieces of a text between dots; there is always at least one. -/
def splitAtDots : List Char → List (List Char)
  | [] => [[]]
  | c :: rest =>
    if c = '.' then [] :: splitAtDots rest
    else match splitAtDots rest with
      | [] => [[c]]
      | piece :: pieces => (c :: piece) :: pieces

/-- Whether a text is an atom. -/
def isAtom (l : List Char) : Bool := !l.isEmpty && l.all isAtomChar

/-- Whether a text is the inside of quoted text. -/
def isQuotedContent : List Char → Bool
  | [] => true
  | '\\' :: c :: rest => isEscapable c && isQuotedContent rest
  | c :: rest => isQuotedChar c && isQuotedContent rest

/-- Whether a text starts and ends with given characters. -/
def isEnclosed (first last : Char) (l : List Char) : Bool :=
  l.head? == some first && l.getLast? == some last

/-- Checks a local part. A lone quote is as empty as a pair of quotes. -/
def checkLocalPart (l : List Char) : Except Flaw Unit :=
  if l.isEmpty then .error .localPartEmpty
  else if localPartLimit < (Utf8.encode l).length then .error .localPartTooLong
  else if isEnclosed '"' '"' l then
    if l.length ≤ 2 then .error .localPartEmpty
    else if isQuotedContent (l.drop 1).dropLast then .ok ()
    else .error .character
  else if (splitAtDots l).all isAtom then .ok ()
  else .error .character

/-- Checks a label of a domain. -/
def checkLabel (l : List Char) : Except Flaw Unit :=
  if l.isEmpty then .error .labelEmpty
  else if !(l.head?.any Text.isLetterOrDigit && l.getLast?.any Text.isLetterOrDigit) then
    .error .character
  else if labelLimit < (Utf8.encode l).length then .error .labelTooLong
  else if isAtom l then .ok ()
  else .error .character

/-- Checks labels in order. -/
def checkLabels : List (List Char) → Except Flaw Unit
  | [] => .ok ()
  | l :: rest => do
    checkLabel l
    checkLabels rest

/-- Checks a domain. -/
def checkDomain (l : List Char) : Except Flaw Unit :=
  if domainLimit < (Utf8.encode l).length then .error .domainTooLong
  else if isEnclosed '[' ']' l then
    if (l.drop 1).dropLast.all isLiteralChar then .ok () else .error .character
  else checkLabels (splitAtDots l)

/-- Checks a mailbox, the local part first. -/
def check (localPart domain : List Char) : Except Flaw Unit := do
  if localPart.head? = some '<' then throw .missingDisplayName
  checkLocalPart localPart
  checkDomain domain

end SessionAuth.Mailbox
