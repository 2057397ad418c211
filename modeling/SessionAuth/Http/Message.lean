import SessionAuth.Decimal.Digits
import SessionAuth.Network.IpAddress
import SessionAuth.Text.Utf8

/-!
Requests and responses.

A response keeps only what differs between responses: its status, what it allows, the type of its body
and the body. The headers that every response carries for clients of other origins are added when all
headers are listed.
-/

set_option autoImplicit false

namespace SessionAuth.Http

/-! ## Requests -/

/-- A request. Header values are bytes. -/
structure Request where
  method : String
  /-- The path with query and fragment. -/
  target : String
  headers : List (String × Bytes)
  body : String
  /-- The address that the connection comes from. -/
  peer : Option IpAddress
  deriving DecidableEq, Repr

/-- A name in small letters. -/
def foldCase (s : String) : List Char := s.toList.map Char.toLower

namespace Request

/-- The path without query and fragment. -/
def path (r : Request) : String :=
  String.ofList (r.target.toList.takeWhile fun c => c != '?' && c != '#')

/-- The value of the first header of a name, whatever its case. -/
def header? (r : Request) (name : String) : Option Bytes :=
  (r.headers.find? fun h => foldCase h.1 == foldCase name).map (·.2)

end Request

/-- Whether a byte is a visible character of ASCII, a space or a tab. -/
def isPlain (b : UInt8) : Bool := (32 ≤ b.toNat && b.toNat < 127) || b.toNat == 9

/-- The text of a header value that has no other bytes. -/
def plainText? (value : Bytes) : Option String :=
  if value.all isPlain then some (String.ofList (value.map fun b => Char.ofNat b.toNat)) else none

/-! ## Responses -/

/-- The types of bodies. -/
inductive ContentType where
  | json
  | text
  deriving DecidableEq, Repr

/-- The name of a type. -/
def ContentType.name : ContentType → String
  | .json => "application/json"
  | .text => "text/plain; charset=utf-8"

/-- A response. -/
structure Response where
  status : Nat
  /-- The methods that are allowed, where that has to be said. -/
  allow : Option String := none
  contentType : Option ContentType := none
  body : String := ""
  /-- The length that is announced for the body. -/
  announced : Nat := 0
  /-- Whether it answers a client that asks what it may do. -/
  preflight : Bool := false
  deriving DecidableEq, Repr

namespace Response

/-- A response with a body. -/
def ofBody (status : Nat) (contentType : ContentType) (body : String) : Response :=
  { status, contentType := some contentType, body, announced := Utf8.size body }

/-- The response without its body, whose length stays announced. -/
def withoutBody (r : Response) : Response := { r with body := "" }

/-- What the response may depend on. -/
def varies : String :=
  "origin, access-control-request-method, access-control-request-headers"

/-- The headers for clients of other origins. -/
def sharingHeaders (r : Response) : List (String × String) :=
  if r.preflight then
    [("access-control-allow-headers", "*"), ("access-control-allow-methods", "*"),
      ("access-control-allow-origin", "*")]
  else [("access-control-allow-origin", "*"), ("access-control-expose-headers", "*")]

/-- All headers, in the order of their names. -/
def headers (r : Response) : List (String × String) :=
  r.sharingHeaders ++ (r.allow.map fun methods => ("allow", methods)).toList ++
    [("content-length", Decimal.toText r.announced)] ++
    (r.contentType.map fun t => ("content-type", t.name)).toList ++
    [("vary", varies)]

end Response

end SessionAuth.Http
