/-!
# JSON values

A value as it stands in a JSON text: the members of an object keep their order, and a name may occur twice. An unsigned integer is
kept as a number, any other numeral as it is written, since nothing here computes with it.
-/

namespace ReleaseGate

/-- A JSON value. -/
inductive Json where
  | null
  | bool (b : Bool)
  /-- An unsigned integer. -/
  | natural (n : Nat)
  /-- Any other number, as written. -/
  | numeral (text : String)
  | str (s : String)
  | array (items : List Json)
  | object (members : List (String × Json))
  deriving Inhabited, BEq, Repr

namespace Json

/-- The value of a text that may be absent. -/
def ofText? : Option String → Json
  | some s => str s
  | none => null

/-- The value of something that may be absent. -/
def ofOption {α : Type} (f : α → Json) : Option α → Json
  | some a => f a
  | none => null

/-- The array of the values of a list. -/
def ofList {α : Type} (f : α → Json) (as : List α) : Json := array (as.map f)

/-- The members of an object; any other value has none. -/
def members : Json → List (String × Json)
  | object ms => ms
  | _ => []

/-- The value of the first member of a name. -/
def field? (j : Json) (name : String) : Option Json := j.members.lookup name

end Json

end ReleaseGate
