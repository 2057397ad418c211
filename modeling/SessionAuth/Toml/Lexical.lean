import SessionAuth.Encoding.Hex

/-!
The lexical parts of TOML: blanks, comments, line ends, strings and keys.

A string stands between single or double quotes, one on one line or three on several lines. Only
between double quotes does a backslash introduce an escape; on several lines it can also stand before
the end of a line, which is then left out together with the blanks and lines that follow.
-/

set_option autoImplicit false

namespace SessionAuth.Toml

/-- Reads something at the front of a text and returns what is left. -/
abbrev Reader (α : Type) := List Char → Option (α × List Char)

/-! ## Blanks, comments and line ends -/

/-- Whether a character is a blank. -/
def isBlank (c : Char) : Bool := c = ' ' || c = '\t'

/-- The text behind blanks. -/
def skipBlanks (l : List Char) : List Char := l.dropWhile isBlank

/-- Whether a character may stand in a comment: all but controls, and tabs. -/
def isPrintable (c : Char) : Bool := c = '\t' || (32 ≤ c.toNat && c.toNat ≠ 127)

/-- The text behind a comment, if there is one. -/
def skipComment : List Char → List Char
  | '#' :: rest => rest.dropWhile isPrintable
  | l => l

/-- The text behind a line end. -/
def lineEnd? : List Char → Option (List Char)
  | '\n' :: rest => some rest
  | '\r' :: '\n' :: rest => some rest
  | _ => none

/-- The text behind the rest of a line, which may have blanks and a comment. -/
def restOfLine? (l : List Char) : Option (List Char) :=
  match skipComment (skipBlanks l) with
  | [] => some []
  | rest => lineEnd? rest

/-- The text behind blanks, comments and line ends. The first argument bounds their number. -/
def skipLines : Nat → List Char → List Char
  | 0, l => l
  | fuel + 1, l =>
    let l := skipBlanks l
    match lineEnd? (skipComment l) with
    | some rest => skipLines fuel rest
    | none => l

/-! ## Strings -/

/-- The character of a one-letter escape. -/
def shortEscapes : List (Char × Char) :=
  [('b', '\x08'), ('t', '\t'), ('n', '\n'), ('f', '\x0c'), ('r', '\r'), ('"', '"'), ('\\', '\\')]

/-- The character with a code point in hexadecimal. -/
def codePoint? (digits : List Char) : Option Char := do
  let values ← digits.mapM Hex.value?
  let n := values.foldl (fun n d => n * 16 + d) 0
  if h : n.isValidChar then some ⟨n.toUInt32, by
    have := h
    simp only [Nat.isValidChar] at this
    simp only [UInt32.isValidChar, Nat.isValidChar, Nat.toUInt32, UInt32.toNat_ofNat']
    omega⟩ else none

/-- The character of an escape, read behind its backslash. -/
def readEscape : Reader Char
  | 'u' :: rest => do
    if rest.length < 4 then none else some (← codePoint? (rest.take 4), rest.drop 4)
  | 'U' :: rest => do
    if rest.length < 8 then none else some (← codePoint? (rest.take 8), rest.drop 8)
  | c :: rest => (shortEscapes.lookup c).map fun d => (d, rest)
  | [] => none

/-- A string between single or double quotes, read behind the first one. -/
def readLine (quote : Char) : Nat → Reader (List Char)
  | 0, _ => none
  | _, [] => none
  | fuel + 1, c :: rest =>
    if c = quote then some ([], rest)
    else if c = '\\' ∧ quote = '"' then do
      let (d, rest) ← readEscape rest
      let (l, rest) ← readLine quote fuel rest
      return (d :: l, rest)
    else if isPrintable c then do
      let (l, rest) ← readLine quote fuel rest
      return (c :: l, rest)
    else none

/-- The text behind a line end that is left out, with the blanks before it, if there is one. -/
def joinedLine? (l : List Char) : Option (List Char) :=
  (lineEnd? (skipBlanks l)).map fun rest =>
    rest.dropWhile fun c => isBlank c || c = '\n' || c = '\r'

/-- A string on several lines, read behind its opening quotes. Up to two quotes may stand directly
before the closing ones. -/
def readLinesOf (quote : Char) : Nat → Reader (List Char)
  | 0, _ => none
  | _, [] => none
  | fuel + 1, c :: rest =>
    let more := fun (d : List Char) (rest : List Char) => do
      let (l, rest) ← readLinesOf quote fuel rest
      return (d ++ l, rest)
    if c = quote then
      let quotes := ((c :: rest).takeWhile (· = quote)).length
      if 3 ≤ quotes then
        -- of a longer run of quotes the last three close the string
        let extra := min (quotes - 3) 2
        some (List.replicate extra quote, (c :: rest).drop (extra + 3))
      else more [c] rest
    else if c = '\\' ∧ quote = '"' then
      match joinedLine? rest with
      | some rest => more [] rest
      | none => do
        let (d, rest) ← readEscape rest
        more [d] rest
    else match lineEnd? (c :: rest) with
      | some rest => more ['\n'] rest
      | none => if isPrintable c then more [c] rest else none

/-- A string of any kind. -/
def readString : Reader String := fun l => do
  match l with
  | '"' :: '"' :: '"' :: rest =>
    let (s, rest) ← readLinesOf '"' (rest.length + 1) ((lineEnd? rest).getD rest)
    return (String.ofList s, rest)
  | '\'' :: '\'' :: '\'' :: rest =>
    let (s, rest) ← readLinesOf '\'' (rest.length + 1) ((lineEnd? rest).getD rest)
    return (String.ofList s, rest)
  | c :: rest =>
    if c = '"' ∨ c = '\'' then
      let (s, rest) ← readLine c (rest.length + 1) rest
      return (String.ofList s, rest)
    else none
  | [] => none

/-! ## Keys -/

/-- Whether a character may stand in a key without quotes. -/
def isBareChar (c : Char) : Bool := c.isAlphanum || c = '_' || c = '-'

/-- A part of a key: in quotes, on one line, or bare. -/
def readKeyPart : Reader String
  | [] => none
  | c :: rest =>
    if c = '"' ∨ c = '\'' then do
      let (s, rest) ← readLine c (rest.length + 1) rest
      return (String.ofList s, rest)
    else
      -- a bare key is as long as it can be
      let bare := (c :: rest).takeWhile isBareChar
      if bare.isEmpty then none
      else some (String.ofList bare, (c :: rest).dropWhile isBareChar)

/-- The longest path and the deepest nesting that is read. -/
def depthLimit : Nat := 79

/-- A key of several parts between dots, with blanks around each part. -/
def readKey : Nat → Reader (List String)
  | 0, _ => none
  | fuel + 1, l => do
    let (part, rest) ← readKeyPart (skipBlanks l)
    match skipBlanks rest with
    | '.' :: rest =>
      let (parts, rest) ← readKey fuel rest
      return (part :: parts, rest)
    | rest => return ([part], rest)

end SessionAuth.Toml
