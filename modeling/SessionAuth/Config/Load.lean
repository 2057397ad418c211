import SessionAuth.Config.Path
import SessionAuth.Config.Read
import SessionAuth.Json.Reader
import SessionAuth.Text.Split
import SessionAuth.Toml.Document

/-!
Loading settings from layers: built-in values, a default file, a file for the mode that the service
runs in, and variables of the environment. What comes later in this order prevails, field by field.

The files and variables are merged with each other first, and the result is laid over the built-in
values.
-/

set_option autoImplicit false

namespace SessionAuth.Config

/-- What settings are loaded from. -/
structure Surroundings where
  /-- Names and contents of the files in the folder of configuration. -/
  files : List (String × String)
  /-- Names and values of the variables that are set. -/
  environment : List (String × String)
  /-- How many processors there are. -/
  processors : Nat
  deriving DecidableEq, Repr

/-- Why no settings are loaded. -/
inductive LoadFault where
  /-- A file that does not follow its notation. -/
  | malformedFile (name : String)
  | misfit (m : Misfit)
  | refused (o : Objection)
  deriving DecidableEq, Repr

/-! ## Built-in values -/

/-- A built-in number. -/
def builtIn (n : Nat) : Node := .scalar none (.integer n)

/-- The built-in values. An address of a database and a secret are not among them. -/
def builtInLayer (processors : Nat) : Node :=
  .table none [
    ("database", .table none [
      ("max_connections", builtIn 10), ("min_connections", builtIn 0),
      ("acquire_timeout_secs", builtIn 5), ("idle_timeout_secs", builtIn 600),
      ("max_lifetime_secs", builtIn 1800), ("initial_ping_timeout_ms", builtIn 2000)]),
    ("server", .table none [("http_port", builtIn 8080)]),
    ("jwt", .table none [
      ("issuer", .scalar none (.text "auth-service")), ("access_ttl_secs", builtIn 900)]),
    ("session", .table none [
      ("refresh_ttl_secs", builtIn 604800), ("operation_timeout_ms", builtIn 10000),
      ("lock_timeout_ms", builtIn 5000)]),
    ("password", .table none [
      ("memory_kib", builtIn HashCost.standard.memoryKib),
      ("time_cost", builtIn HashCost.standard.passes),
      ("parallelism", builtIn HashCost.standard.lanes),
      ("max_concurrent", builtIn processors)])]

/-! ## Files -/

mutual

/-- A TOML value with its origin. -/
def ofToml (origin : Option String) : Toml.Value → Node
  | .text s => .scalar origin (.text s)
  | .bool b => .scalar origin (.bool b)
  | .integer i => .scalar origin (.integer i)
  | .float x => .scalar origin (.float x)
  | .moment s => .scalar origin (.text s)
  | .list elements => .list origin (ofTomlElements origin elements)
  | .table members => .table origin (ofTomlMembers origin members)

/-- TOML values with their origin. -/
def ofTomlElements (origin : Option String) : List Toml.Value → List Node
  | [] => []
  | v :: rest => ofToml origin v :: ofTomlElements origin rest

/-- TOML members with their origin. -/
def ofTomlMembers (origin : Option String) : List (String × Toml.Value) → List (String × Node)
  | [] => []
  | (k, v) :: rest => (k, ofToml origin v) :: ofTomlMembers origin rest

end

/-- A JSON number. A whole number that needs more than a signed 64-bit number becomes a
floating-point one. -/
def ofJsonNumber : Json.Number → Scalar
  | .float negative x => .float (.finite negative x)
  | .int i =>
    if Decimal.isSignedWord i then .integer i
    else .float (Decimal.Extended.ofDecimal (i < 0) i.natAbs 0)

mutual

/-- A JSON value with its origin. -/
def ofJson (origin : Option String) : Json.Value → Node
  | .null => .scalar origin .null
  | .bool b => .scalar origin (.bool b)
  | .number n => .scalar origin (ofJsonNumber n)
  | .text s => .scalar origin (.text s)
  | .array elements => .list origin (ofJsonElements origin elements)
  | .object members => .table origin (ofJsonMembers origin members [])

/-- JSON values with their origin. -/
def ofJsonElements (origin : Option String) : List Json.Value → List Node
  | [] => []
  | v :: rest => ofJson origin v :: ofJsonElements origin rest

/-- JSON members with their origin, added to other ones. Of several members of one name, the last one
counts. -/
def ofJsonMembers (origin : Option String) :
    List (String × Json.Value) → List (String × Node) → List (String × Node)
  | [], found => found
  | (k, v) :: rest, found =>
    ofJsonMembers origin rest (Node.setIn k (ofJson origin v) found)

end

/-- The members that the text of a file defines in the notation of its name's ending. -/
def parseFile? (ending : String) (origin content : String) : Option (List (String × Node)) :=
  if ending = "toml" then (Toml.parse? content).map (ofTomlMembers (some origin))
  else match Json.parse (Utf8.ofString content) with
    | .ok (.object members) => some (ofJsonMembers (some origin) members [])
    | _ => none

/-- The endings of file names, in the order in which they are tried. -/
def endings : List String := ["toml", "json"]

/-- The ending of a file name: what follows its last dot. -/
def endingOf (name : String) : Option String :=
  match Text.splitAtLast? '.' name.toList with
  | some (_ :: _, ending) => some (String.ofList ending)
  | _ => none

/-- The file that a name stands for, with its ending and content: the file of just this name, or else
one of this name with an ending. -/
def findFile? (files : List (String × String)) (name : String) :
    Option (String × String × String) :=
  match files.lookup name with
  | some content =>
    match endingOf name with
    -- a file of just this name hides the others, even if its ending is of no use
    | some ending => if endings.contains ending then some (name, ending, content) else none
    | none => none
  | none =>
    if name.isEmpty then none
    else endings.findSome? fun ending =>
      let fileName := name ++ "." ++ ending
      (files.lookup fileName).map fun content => (fileName, ending, content)

/-- The members that a file defines. A file does not have to be there. -/
def loadFile (files : List (String × String)) (name : String) :
    Except LoadFault (List (String × Node)) :=
  match findFile? files name with
  | none => .ok []
  | some (fileName, ending, content) =>
    match parseFile? ending ("config/" ++ fileName) content with
    | some members => .ok members
    | none => .error (.malformedFile fileName)

/-! ## Variables -/

/-- What the name of a variable of the service starts with. -/
def variableStart : List Char := "auth_".toList

/-- Text in which two underscores have become a dot, from the left. -/
def dotted : List Char → List Char
  | '_' :: '_' :: rest => '.' :: dotted rest
  | c :: rest => c :: dotted rest
  | [] => []

/-- The member that a variable defines, if it is one of the service. Case does not matter. -/
def ofVariable? (v : String × String) : Option (String × Node) :=
  let name := Text.lower v.1.toList
  if variableStart.isPrefixOf name then
    some (String.ofList (dotted (name.drop variableStart.length)),
      .scalar (some "the environment") (.text v.2))
  else none

/-! ## Layers -/

/-- Lays members, whose names are paths, over what is there. -/
def overlay (members : List (String × Node)) (root : Node) : Node :=
  members.foldl (fun root m => (Path.parse m.1).set m.2 root) root

/-- The mode that the service runs in. -/
def runMode (e : Surroundings) : String := (e.environment.lookup "RUN_MODE").getD "development"

/-- All layers, laid over each other. -/
def layers (e : Surroundings) : Except LoadFault Node := do
  let standard ← loadFile e.files "default"
  let special ← loadFile e.files (runMode e)
  let ofEnvironment := e.environment.filterMap ofVariable?
  -- the built-in part of a section is still there where a scalar of a file has given way to a variable
  let merged := overlay ofEnvironment (overlay special (overlay standard Node.emptyTable))
  return overlay merged.members (builtInLayer e.processors)

/-- Loads settings. -/
def load (e : Surroundings) : Except LoadFault Settings := do
  let root ← layers e
  let settings ← (Settings.read layerFormat root).mapError .misfit
  settings.check.mapError .refused

/-- The wording of a fault. -/
def LoadFault.message : LoadFault → String
  | .malformedFile name => "malformed file " ++ name
  | .misfit m => m.message
  | .refused o => o.message

end SessionAuth.Config
