import SessionAuth.Config.Node
import SessionAuth.Decimal.Digits

/-!
Paths into configuration: a name, and names behind dots or numbers in brackets.

Whatever a path leads through comes into being on the way. A text that is no path stands for the
one name that it is.
-/

set_option autoImplicit false

namespace SessionAuth.Config

/-- A step of a path. -/
inductive Step where
  | member (name : String)
  /-- An element, counted from the end if the number is negative. -/
  | element (index : Int)
  deriving DecidableEq, Repr

/-- A path. -/
structure Path where
  first : String
  steps : List Step
  deriving DecidableEq, Repr

namespace Path

/-! ## Reading -/

/-- Whether a character may stand in a name. -/
def isNameChar (c : Char) : Bool := c.isAlphanum || c = ' ' || c = '_' || c = '-'

/-- A number in brackets, read behind the first one. Blanks may stand around it. -/
def readIndex? (l : List Char) : Option (Int × List Char) := do
  let isSpace := fun (c : Char) => c = ' ' || c = '\t'
  let l := l.dropWhile isSpace
  let (negative, l) := match l with
    | '-' :: rest => (true, rest)
    | l => (false, l)
  let n ← Decimal.read? (l.takeWhile Decimal.isDigit)
  match (l.dropWhile Decimal.isDigit).dropWhile isSpace with
  | ']' :: rest => some (if negative then -(n : Int) else n, rest)
  | _ => none

/-- The steps of a path behind its first name. The first argument bounds their number. -/
def readSteps? : Nat → List Char → Option (List Step)
  | 0, _ => none
  | _, [] => some []
  | fuel + 1, '.' :: rest =>
    let name := rest.takeWhile isNameChar
    if name.isEmpty then none
    else (readSteps? fuel (rest.dropWhile isNameChar)).map (.member (String.ofList name) :: ·)
  | fuel + 1, '[' :: rest => do
    let (index, rest) ← readIndex? rest
    (readSteps? fuel rest).map (.element index :: ·)
  | _, _ => none

/-- Reads a path. -/
def parse (s : String) : Path :=
  let l := s.toList
  let first := l.takeWhile isNameChar
  match readSteps? (l.length + 1) (l.dropWhile isNameChar) with
  | some steps => if first.isEmpty then ⟨s, []⟩ else ⟨String.ofList first, steps⟩
  | none => ⟨s, []⟩

/-! ## Changing what a path leads to -/

/-- The elements of a list; of anything else, none. -/
def elementsOf : Node → List Node
  | .list _ elements => elements
  | _ => []

/-- The origin of a list. -/
def listOrigin : Node → Option String
  | .list origin _ => origin
  | _ => none

/-- The position of an element in a list of a given length. -/
def position (index : Int) (length : Nat) : Nat :=
  if 0 ≤ index then index.toNat else length - index.natAbs

/-- Changes what steps lead to. -/
def change (f : Node → Node) : List Step → Node → Node
  | [], v => f v
  | .member name :: steps, v =>
    let old := (v.members.lookup (Node.foldName name)).getD Node.nothing
    Node.setMember (Node.foldName name) (change f steps old) v
  | .element index :: steps, v =>
    let elements := elementsOf v
    let i := position index elements.length
    let old := elements.getD i Node.nothing
    let filled := elements ++ List.replicate (i + 1 - elements.length) Node.nothing
    .list (listOrigin v) (filled.set i (change f steps old))

/-- Lays a piece over what a path leads to. -/
def set (p : Path) (v root : Node) : Node :=
  if p.steps.isEmpty then Node.put p.first v root
  else change (Node.cover v) (.member p.first :: p.steps) root

end Path

end SessionAuth.Config
