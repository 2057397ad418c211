/-!
Media types: a type and a subtype with a slash between them, and parameters behind semicolons. Letters
are compared without regard to case.
-/

set_option autoImplicit false

namespace SessionAuth.Http.MediaType

/-- The signs that may stand in a name. -/
def nameSigns : List Char := "!#$%&'*+-.^_\x60|~".toList

/-- Whether a character may stand in a name. -/
def isNameChar (c : Char) : Bool := c.isAlphanum || nameSigns.contains c

/-- Whether a character may stand in a quoted value. -/
def isQuotedChar (c : Char) : Bool := 31 < c.toNat && c.toNat ≠ 127

/-- What is left behind a quoted value: nothing, or what follows the next semicolon. -/
def afterQuoted? : List Char → Option (List Char)
  | [] => some []
  | ';' :: rest => some rest
  | ' ' :: rest => afterQuoted? rest
  | _ => none

/-- The text behind the value of a parameter, if the value is well-formed and not empty. -/
def afterValue? (l : List Char) : Option (List Char) :=
  match l with
  | '"' :: inside =>
    let value := inside.takeWhile fun c => isQuotedChar c && c != '"'
    match inside.drop value.length with
    | '"' :: rest =>
      if value.isEmpty then
        -- a quote that would end an empty value belongs to it
        let more := rest.takeWhile fun c => isQuotedChar c && c != '"'
        match rest.drop more.length with
        | '"' :: rest => afterQuoted? rest
        | _ => none
      else afterQuoted? rest
    | _ => none
  | _ =>
    match l.dropWhile isNameChar with
    | [] => some []
    | ';' :: rest => if (l.takeWhile isNameChar).isEmpty then none else some rest
    | _ => none

/-- Whether a text is a list of parameters. The first argument bounds their number. -/
def areParameters : Nat → List Char → Bool
  | 0, _ => false
  | _ + 1, [] => true
  | fuel + 1, ' ' :: rest => areParameters fuel rest
  | fuel + 1, l =>
    match l.dropWhile isNameChar with
    | '=' :: rest =>
      !(l.takeWhile isNameChar).isEmpty &&
        match afterValue? rest with
        | some rest => areParameters fuel rest
        | none => false
    | _ => false

/-- A name in small letters is the given one. -/
def isNamed (name : String) (l : List Char) : Bool := l.map Char.toLower == name.toList

/-- The parts of a subtype before and behind its last plus sign, which does not lead it. -/
def splitSuffix (l : List Char) : List Char × Option (List Char) :=
  let suffix := (l.reverse.takeWhile (· != '+')).reverse
  let base := l.take (l.length - suffix.length - 1)
  if suffix.length = l.length ∨ base.isEmpty then (l, none) else (base, some suffix)

/-- Whether a text is a media type for JSON: `application/json`, or one with the suffix `json`. -/
def isJson (s : String) : Bool :=
  let l := s.toList
  let type := l.takeWhile isNameChar
  match l.dropWhile isNameChar with
  | '/' :: rest =>
    let subtype := rest.takeWhile isNameChar
    let wellFormed := match rest.dropWhile isNameChar with
      | [] => true
      | ';' :: parameters => !subtype.isEmpty && areParameters (parameters.length + 1) parameters
      | _ => false
    let (base, suffix) := splitSuffix subtype
    wellFormed && isNamed "application" type &&
      (isNamed "json" base || suffix.any (isNamed "json"))
  | _ => false

end SessionAuth.Http.MediaType
