import SessionAuth.Http.MediaType
import SessionAuth.Http.Message
import SessionAuth.Json.Record

/-!
The bodies of requests: JSON records with text fields.

A body is looked at only if the request says that it is JSON, and only up to a limit. Whatever follows
the record in the body is ignored.
-/

set_option autoImplicit false

namespace SessionAuth.Http

/-- An address and a password. -/
structure Credentials where
  email : String
  password : String
  deriving DecidableEq, Repr

/-- How credentials are read, as the record of a given name. -/
def Credentials.record (name : String) :
    Json.Record (Option String × Option String) Credentials where
  expected := "struct " ++ name
  expectedList := "struct " ++ name ++ " with 2 elements"
  fields := [
    .text "email" (·.1) fun d s => (some s, d.2),
    .text "password" (·.2) fun d s => (d.1, some s)]
  empty := (none, none)
  finish := fun d => do
    return ⟨← Json.require "email" d.1, ← Json.require "password" d.2⟩

/-- How a record with one text is read. -/
def singleText (name field : String) : Json.Record (Option String) String where
  expected := "struct " ++ name
  expectedList := "struct " ++ name ++ " with 1 element"
  fields := [.text field id fun _ s => some s]
  empty := none
  finish := Json.require field

/-- Whether a request says that its body is JSON. -/
def announcesJson (r : Request) : Bool :=
  ((r.header? "content-type").bind plainText?).any MediaType.isJson

/-- Most bytes that the body of a request may have. -/
def bodyLimit : Nat := 2097152

/-- The body of a request, or the response that refuses it. -/
def readBody {σ α : Type} (record : Json.Record σ α) (r : Request) : Except Response α :=
  if !announcesJson r then
    .error (.ofBody 415 .text "Expected request with \x60Content-Type: application/json\x60")
  else if bodyLimit < r.body.utf8ByteSize then
    .error (.ofBody 413 .text "Failed to buffer the request body: length limit exceeded")
  else
    let input := Utf8.ofString r.body
    match record.read input with
    | .ok (a, _) => .ok a
    | .error fault =>
      let message := fault.messageWithPath input
      if fault.isMismatch then
        .error (.ofBody 422 .text
          ("Failed to deserialize the JSON body into the target type: " ++ message))
      else
        .error (.ofBody 400 .text ("Failed to parse the request body as JSON: " ++ message))

end SessionAuth.Http
