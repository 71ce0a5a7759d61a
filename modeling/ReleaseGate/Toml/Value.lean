import ReleaseGate.Text.Lines

/-!
# TOML values

What a TOML document holds. Tables and arrays remember how they came about, because that decides whether a later line of the
document may add to them. Numbers and dates are kept as they are written, since nothing here computes with them.
-/

namespace ReleaseGate.Toml

/-- How a table came about. -/
inductive Origin where
  /-- It was written between braces, as a value. -/
  | inline
  /-- It has a header of its own. -/
  | header
  /-- It lies on the way to the table of a header. -/
  | onTheWay
  /-- It lies on the way to a value with a dotted key. -/
  | dotted
  deriving DecidableEq, Repr

/-- A value of a document. -/
inductive Value where
  | str (s : String)
  | boolean (b : Bool)
  /-- An integer or a float. -/
  | number (text : String)
  /-- A date, a time of day, or both. -/
  | moment (text : String)
  /-- An array: written as a value, or made up of tables with a header each. -/
  | array (asValue : Bool) (items : List Value)
  | table (origin : Origin) (members : List (String × Value))
  deriving Inhabited, Repr

/-- The members of a table. -/
abbrev Members := List (String × Value)

/-- The members with the value of a name replaced, or added at the end. -/
def Members.put (name : String) (v : Value) : Members → Members
  | [] => [(name, v)]
  | (n, w) :: rest => if n == name then (n, v) :: rest else (n, w) :: put name v rest

end ReleaseGate.Toml
