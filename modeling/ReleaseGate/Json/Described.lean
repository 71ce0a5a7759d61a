import ReleaseGate.Json.Number
import ReleaseGate.Text.Quoted

/-!
# Values in messages

How a message names a value that is of another type than expected.
-/

namespace ReleaseGate.Json

/-- How a message names a number. -/
def describedNumber (numeral : List Char) : String :=
  let p := Number.partsOf numeral
  let kind := if Number.isWord p then "integer" else "floating point"
  kind ++ " \x60" ++ Number.shown numeral ++ "\x60"

/-- How a message names a value. -/
def described : Json → String
  | null => "null"
  | bool true => "boolean \x60true\x60"
  | bool false => "boolean \x60false\x60"
  | natural n => describedNumber (Nat.toDigits 10 n)
  | numeral text => describedNumber text.toList
  | str s => s!"string {Text.quoted s}"
  | array _ => "sequence"
  | object _ => "map"

end ReleaseGate.Json
