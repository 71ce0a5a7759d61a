import ReleaseGate.Json.Value

/-!
# Decoding JSON values

Records are stored as JSON objects. A decoder takes a value and gives what it stands for, or nothing when it does not fit. Three
conventions hold for all records. A record may also be stored as an array of its fields in order. A field that may be absent is
left out or null. A choice without content is a name, or an object whose one member has that name and no content; a choice with
content has a tag and the content beside it, each in a field of its own.
-/

namespace ReleaseGate.Codec

/-- A text. -/
def text? : Json → Option String
  | .str s => some s
  | _ => none

/-- A truth value. -/
def flag? : Json → Option Bool
  | .bool b => some b
  | _ => none

/-- An unsigned integer of 64 bits. -/
def word? : Json → Option UInt64
  | .natural n => if n < UInt64.size then some n.toUInt64 else none
  | _ => none

/-- A list. -/
def list? {α : Type} (each : Json → Option α) : Json → Option (List α)
  | .array items => items.mapM each
  | _ => none

/-- Something that may be null. -/
def orNull? {α : Type} (each : Json → Option α) : Json → Option (Option α)
  | .null => some none
  | j => (each j).map some

/-- The values of the members of a name. -/
def valuesOf (name : String) (members : List (String × Json)) : List Json :=
  (members.filter (·.1 == name)).map (·.2)

/-- The fields of a record, in the order of their names: `none` for one that is left out. A name that occurs twice fits nothing,
nor does an array of another length. -/
def fields? (names : List String) : Json → Option (List (Option Json))
  | .object members =>
    names.mapM fun name =>
      match valuesOf name members with
      | [] => some none
      | [value] => some (some value)
      | _ => none
  | .array items => if items.length = names.length then some (items.map some) else none
  | _ => none

/-- A field that must be there. -/
def required {α : Type} (each : Json → Option α) (field : Option Json) : Option α := field.bind each

/-- A field that may be left out or null. -/
def optional {α : Type} (each : Json → Option α) : Option Json → Option (Option α)
  | none => some none
  | some j => orNull? each j

/-- The name of a choice without content. -/
def choice? : Json → Option String
  | .str name => some name
  | .object [(name, .null)] => some name
  | _ => none

/-- A choice without content, by its name. -/
def named? {α : Type} (ofName? : String → Option α) (j : Json) : Option α := (choice? j).bind ofName?

/-- The tag and the content of a choice, from their fields. In an array both must be there. -/
def tagged? (tag content : String) (j : Json) : Option (String × Option Json) :=
  (fields? [tag, content] j).bind fun
    | [some t, c] => (choice? t).map fun name => (name, c)
    | _ => none

/-- A choice without content, beside which the content may be null. -/
def bare {α : Type} (value : α) : Option Json → Option α
  | none => some value
  | some .null => some value
  | some _ => none

end ReleaseGate.Codec
