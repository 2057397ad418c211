import SessionAuth.Decimal.Word
import SessionAuth.Json.Record

/-!
The registered claims of a token, read a second time and leniently: a claim of the wrong type counts
as one that says nothing, and the reader goes on where it stopped.
-/

set_option autoImplicit false

namespace SessionAuth

/-- What a lenient reader makes of a claim. -/
inductive Claimed (α : Type) where
  | absent
  | unreadable
  | present (value : α)
  deriving DecidableEq, Repr

/-- One text or several. -/
inductive OneOrMany where
  | one (s : String)
  | many (l : List String)
  deriving DecidableEq, Repr

/-- The registered claims. -/
structure RegisteredClaims where
  expiresAt : Claimed Nat := .absent
  notBefore : Claimed Nat := .absent
  subject : Claimed String := .absent
  issuer : Claimed OneOrMany := .absent
  audience : Claimed OneOrMany := .absent
  deriving DecidableEq, Repr

namespace RegisteredClaims

open Json

/-- A reading that cannot fail: after a fault it goes on with what is left. -/
def leniently {α : Type} (read : Reader (Option α)) : Reader (Claimed α) := fun b =>
  match read b with
  | .ok (some a, b) => .ok (.present a, b)
  | .ok (none, b) => .ok (.absent, b)
  | .error fault => .ok (.unreadable, fault.rest)

/-- A time in whole seconds, from a number that is not negative and below 2^64. -/
def seconds? : Number → Option Nat
  | .int i => if 0 ≤ i then some i.toNat else none
  | .float negative x =>
    if negative ∧ x.mantissa ≠ 0 then none
    else if x.round < Decimal.wordLimit then some x.round else none

/-- Reads a time. Nothing but a number is one; of a list or an object only the opening and, where it
is empty, the closing are read. -/
def readTime : Reader (Claimed Nat) := fun b =>
  let ofNumber := fun (n : Number) (b : Bytes) =>
    Except.ok (((seconds? n).elim .unreadable .present : Claimed Nat), b)
  let unreadable := fun (b : Bytes) => (Except.ok (.unreadable, b) : Except Fault _)
  match skipSpace b with
  | c :: rest =>
    if c = byte '[' then unreadable (afterClosing closeList rest)
    else if c = byte '\x7b' then unreadable (afterClosing closeObject rest)
    else
      match readValue 0 (c :: rest) with
      | .ok (.number n, b) => ofNumber n b
      | .ok (_, b) => unreadable b
      | .error fault => unreadable fault.rest
  | [] => unreadable []

/-- How deep values in a claim may be nested. -/
def claimDepth : Nat := depthLimit - 1

/-- The text of a value. -/
def text? : Value → Option String
  | .text s => some s
  | _ => none

/-- The texts of a value that is text or a list of texts. -/
def oneOrMany? : Value → Option OneOrMany
  | .text s => some (.one s)
  | .array vs => (vs.mapM text?).map .many
  | _ => none

/-- Reads one text or several. -/
def readOneOrMany : Reader (Claimed OneOrMany) := fun b =>
  match readOption (readValue claimDepth) b with
  | .ok (none, b) => .ok (.absent, b)
  | .ok (some v, b) => .ok ((oneOrMany? v).elim .unreadable .present, b)
  | .error fault => .ok (.unreadable, fault.rest)

/-- Claims that have been read, and their names. -/
structure Draft where
  seen : List String := []
  claims : RegisteredClaims := {}

/-- A claim. -/
def claim {α : Type} (name : String) (read : Reader α)
    (set : RegisteredClaims → α → RegisteredClaims) : Json.Field Draft :=
  ⟨name, fun d => d.seen.contains name,
    fun d b => (read b).map fun p => (⟨name :: d.seen, set d.claims p.1⟩, p.2)⟩

/-- How registered claims are read. -/
def record : Record Draft RegisteredClaims where
  expected := "registered claims"
  expectedList := "five registered claims"
  fields := [
    claim "exp" readTime fun c v => { c with expiresAt := v },
    claim "nbf" readTime fun c v => { c with notBefore := v },
    claim "sub" (leniently (readOption readText)) fun c v => { c with subject := v },
    claim "iss" readOneOrMany fun c v => { c with issuer := v },
    claim "aud" readOneOrMany fun c v => { c with audience := v }]
  empty := {}
  finish := fun d => .ok d.claims

/-- Reads the registered claims of a document. -/
def parse (input : Bytes) : Except Fault RegisteredClaims := readAll record.read input

end RegisteredClaims

end SessionAuth
