import SessionAuth.Decimal.Extended
import SessionAuth.Text.LowerCase

/-!
Configuration before it is understood: scalars, lists and tables, with a note of where each came from.

A source is laid over what is there name by name. Names do not regard case. A scalar or a list replaces
what has its name; a table is merged into it, and turns it into a table if it is none.
-/

set_option autoImplicit false

namespace SessionAuth.Config

/-- A value without parts. -/
inductive Scalar where
  | null
  | bool (value : Bool)
  | integer (value : Int)
  | float (value : Decimal.Extended)
  | text (value : String)
  deriving DecidableEq, Repr

/-- A piece of configuration. The origin is missing in what is built in or came about by merging. -/
inductive Node where
  | scalar (origin : Option String) (value : Scalar)
  | list (origin : Option String) (elements : List Node)
  | table (origin : Option String) (members : List (String × Node))
  deriving Repr

instance : Inhabited Node := ⟨.scalar none .null⟩

namespace Node

/-- Nothing. -/
def nothing : Node := .scalar none .null

/-- A table without members. -/
def emptyTable : Node := .table none []

/-- The same name for all spellings that differ in case only. -/
def foldName (name : String) : String := String.ofList (Text.lower name.toList)

/-- The members of a table; of anything else, none. -/
def members : Node → List (String × Node)
  | .table _ members => members
  | _ => []

/-- The members with one of them replaced or added. -/
def setIn (name : String) (v : Node) : List (String × Node) → List (String × Node)
  | [] => [(name, v)]
  | (k, w) :: rest => if k = name then (k, v) :: rest else (k, w) :: setIn name v rest

/-- The table with one member replaced or added; what is no table becomes one. -/
def setMember (name : String) (v : Node) : Node → Node
  | .table origin members => .table origin (setIn name v members)
  | _ => .table none [(name, v)]

mutual

/-- Lays a piece over the member of a name. -/
def put (name : String) (v root : Node) : Node :=
  match v with
  | .table _ incoming =>
    let target := (root.members.lookup (foldName name)).getD emptyTable
    setMember (foldName name) (putAll incoming target) root
  | v => setMember (foldName name) v root

/-- Lays members over a piece, one after the other. -/
def putAll (incoming : List (String × Node)) (root : Node) : Node :=
  match incoming with
  | [] => root
  | (name, v) :: rest => putAll rest (put name v root)

end

/-- Lays a piece over another one. -/
def cover (v root : Node) : Node :=
  match v with
  | .table _ incoming => putAll incoming root
  | v => v

end Node

end SessionAuth.Config
