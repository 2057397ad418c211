import SessionAuth.Toml.Value

/-!
The tables of a TOML document while it is read.

A table comes into being in one of three ways: under its own header, on the way to another header, or
by a key of several parts. What was made on the way may get its own header later; what was made by
keys can only be continued by keys of the same place; and nothing is ever set twice.
-/

set_option autoImplicit false

namespace SessionAuth.Toml

/-- How a table came into being. -/
inductive Origin where
  /-- Under a header of its own. -/
  | header
  /-- On the way to another header. -/
  | passed
  /-- By a key of several parts. -/
  | dotted
  deriving DecidableEq, Repr

/-- What a key stands for. -/
inductive Item where
  | value (v : Value)
  | table (origin : Origin) (members : List (String × Item))
  /-- Tables under headers of the same name, the latest one last. -/
  | tables (elements : List (List (String × Item)))

/-- Keys and what they stand for. -/
abbrev Members := List (String × Item)

/-- The members with another item for a key. -/
def setMember (key : String) (item : Item) : Members → Members
  | [] => [(key, item)]
  | (k, v) :: rest => if k = key then (k, item) :: rest else (k, v) :: setMember key item rest

/-- Changes the last element. -/
def changeLast? {α : Type} (f : α → Option α) : List α → Option (List α)
  | [] => none
  | [a] => (f a).map ([·])
  | a :: b :: rest => (changeLast? f (b :: rest)).map (a :: ·)

/-- Changes the members of the table at the end of a path, and makes the tables on the way that are not
there yet. A table that has its own header is not entered by a key of several parts. -/
def descend? (byKey : Bool) (f : Origin → Members → Option Members) :
    List String → Origin → Members → Option Members
  | [], origin, members => f origin members
  | key :: path, _, members =>
    match members.lookup key with
    | none =>
      let origin : Origin := if byKey then .dotted else .passed
      (descend? byKey f path origin []).map fun inner =>
        setMember key (.table origin inner) members
    | some (.value _) => none
    | some (.tables elements) =>
      (changeLast? (descend? byKey f path .header) elements).map fun elements =>
        setMember key (.tables elements) members
    | some (.table origin inner) =>
      if byKey ∧ origin = .header then none
      else (descend? byKey f path origin inner).map fun inner =>
        setMember key (.table origin inner) members

/-- Sets a key of several parts. -/
def assign? (path : List String) (v : Value) (members : Members) : Option Members := do
  let key ← path.getLast?
  let way := path.dropLast
  descend? true
    (fun origin inner =>
      if (!way.isEmpty && origin ≠ .dotted) || (inner.lookup key).isSome then none
      else some (inner ++ [(key, .value v)]))
    way .header members

/-- Opens the table of a header. -/
def openTable? (path : List String) (members : Members) : Option Members := do
  let key ← path.getLast?
  descend? false
    (fun _ inner =>
      match inner.lookup key with
      | none => some (inner ++ [(key, .table .header [])])
      | some (.table .passed content) => some (setMember key (.table .header content) inner)
      | some _ => none)
    path.dropLast .header members

/-- Opens one more table of a header. -/
def openNextTable? (path : List String) (members : Members) : Option Members := do
  let key ← path.getLast?
  descend? false
    (fun _ inner =>
      match inner.lookup key with
      | none => some (inner ++ [(key, .tables [[]])])
      | some (.tables elements) => some (setMember key (.tables (elements ++ [[]])) inner)
      | some _ => none)
    path.dropLast .header members

mutual

/-- The value of an item. -/
def Item.toValue : Item → Value
  | .value v => v
  | .table _ members => .table (Item.valuesOf members)
  | .tables elements => .list (Item.tablesOf elements)

/-- The values of members. -/
def Item.valuesOf : List (String × Item) → List (String × Value)
  | [] => []
  | (k, item) :: rest => (k, item.toValue) :: Item.valuesOf rest

/-- The values of tables. -/
def Item.tablesOf : List (List (String × Item)) → List Value
  | [] => []
  | members :: rest => .table (Item.valuesOf members) :: Item.tablesOf rest

end

end SessionAuth.Toml
