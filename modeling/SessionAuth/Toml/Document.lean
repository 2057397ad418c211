import SessionAuth.Toml.Lexical
import SessionAuth.Toml.Moment
import SessionAuth.Toml.Number
import SessionAuth.Toml.Tree

/-!
Reading TOML documents: lines that set a key, and headers that say where the keys behind them belong.
-/

set_option autoImplicit false

namespace SessionAuth.Toml

/-! ## Values -/

/-- Whether a character may stand in a number, a date or a word. -/
def isTokenChar (c : Char) : Bool :=
  c.isAlphanum || c = '+' || c = '-' || c = '_' || c = '.' || c = ':'

/-- A number, a date or a word at the front of a text. A blank may stand between a date and a time. -/
def takeToken (l : List Char) : List Char × List Char :=
  let token := l.takeWhile isTokenChar
  match l.dropWhile isTokenChar with
  | ' ' :: c :: rest =>
    if (moment? token).isSome ∧ token.length = 10 ∧ Decimal.isDigit c then
      (token ++ ' ' :: (c :: rest).takeWhile isTokenChar, (c :: rest).dropWhile isTokenChar)
    else (token, ' ' :: c :: rest)
  | rest => (token, rest)

/-- The value of a token. -/
def tokenValue? (token : List Char) : Option Value :=
  if token = "true".toList then some (.bool true)
  else if token = "false".toList then some (.bool false)
  else match moment? token with
    | some text => some (.moment (String.ofList text))
    | none =>
      match float? token with
      | some x => some (.float x)
      | none => (integer? token).map .integer

mutual

/-- A value. The first argument bounds the steps, the second one the nesting. -/
def readValue : Nat → Nat → Reader Value
  | 0, _, _ => none
  | _, _, [] => none
  | fuel + 1, depth, c :: rest =>
    if c = '"' ∨ c = '\'' then (readString (c :: rest)).map fun p => (.text p.1, p.2)
    else if c = '[' then
      match depth with
      | 0 => none
      | depth + 1 => (readElements fuel depth rest).map fun p => (.list p.1, p.2)
    else if c = '\x7b' then
      match depth with
      | 0 => none
      | depth + 1 =>
        match skipBlanks rest with
        | '\x7d' :: rest => some (.table [], rest)
        | rest => (readInline fuel depth [] rest).map fun p => (.table (Item.valuesOf p.1), p.2)
    else
      let (token, rest) := takeToken (c :: rest)
      (tokenValue? token).map fun v => (v, rest)

/-- The elements of a list up to its end. The last comma may be followed by the end. -/
def readElements : Nat → Nat → Reader (List Value)
  | 0, _, _ => none
  | fuel + 1, depth, l =>
    match skipLines (l.length + 1) l with
    | ']' :: rest => some ([], rest)
    | rest => do
      let (v, rest) ← readValue fuel depth rest
      match skipLines (rest.length + 1) rest with
      | ',' :: rest =>
        let (more, rest) ← readElements fuel depth rest
        return (v :: more, rest)
      | ']' :: rest => return ([v], rest)
      | _ => none

/-- The members of a table on one line, up to its end. -/
def readInline : Nat → Nat → Members → Reader Members
  | 0, _, _, _ => none
  | fuel + 1, depth, members, l => do
    let (path, rest) ← readKey depthLimit l
    match rest with
    | '=' :: rest =>
      let (v, rest) ← readValue fuel depth (skipBlanks rest)
      let members ← assign? path v members
      match skipBlanks rest with
      | ',' :: rest => readInline fuel depth members rest
      | '\x7d' :: rest => return (members, rest)
      | _ => none
    | _ => none

end

/-! ## Lines -/

/-- The members read so far, and the path of the header they are under. -/
structure Progress where
  members : Members
  here : List String

/-- Reads a header behind its first bracket. -/
def readHeader (p : Progress) (l : List Char) : Option (Progress × List Char) := do
  match l with
  | '[' :: l =>
    let (path, rest) ← readKey depthLimit l
    match rest with
    | ']' :: ']' :: rest => return (⟨← openNextTable? path p.members, path⟩, rest)
    | _ => none
  | l =>
    let (path, rest) ← readKey depthLimit l
    match rest with
    | ']' :: rest => return (⟨← openTable? path p.members, path⟩, rest)
    | _ => none

/-- Reads a line that sets a key. -/
def readAssignment (p : Progress) (l : List Char) : Option (Progress × List Char) := do
  let (path, rest) ← readKey depthLimit l
  match rest with
  | '=' :: rest =>
    let (v, rest) ← readValue (rest.length + 1) depthLimit (skipBlanks rest)
    let members ← descend? false (fun _ inner => assign? path v inner) p.here .header p.members
    return ({ p with members }, rest)
  | _ => none

/-- Reads lines until the end of the text. -/
def readLines : Nat → Progress → List Char → Option Members
  | 0, _, _ => none
  | fuel + 1, p, l =>
    match skipLines (l.length + 1) l with
    | [] => some p.members
    | '#' :: rest => if (skipComment ('#' :: rest)).isEmpty then some p.members else none
    | '[' :: rest => do
      let (p, rest) ← readHeader p rest
      readLines fuel p (← restOfLine? rest)
    | l => do
      let (p, rest) ← readAssignment p l
      readLines fuel p (← restOfLine? rest)

/-- The text without a mark of its byte order. -/
def withoutMark : List Char → List Char
  | '\ufeff' :: rest => rest
  | l => l

/-- Reads a document. -/
def parse? (s : String) : Option (List (String × Value)) :=
  let l := withoutMark s.toList
  (readLines (l.length + 1) ⟨[], []⟩ l).map Item.valuesOf

end SessionAuth.Toml
