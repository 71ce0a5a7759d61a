/-!
# Faults of JSON texts

What can be wrong with a text that should hold a record: it is no JSON, or a value does not fit. A fault in a text has a place,
which is told as a line and a column; the lines count from one, and the column is the number of bytes read in the line.
-/

namespace ReleaseGate.Json

/-- What can be wrong. -/
inductive FaultKind where
  | endsInValue
  | endsInArray
  | endsInObject
  | endsInText
  | noColon
  | noArrayEnd
  | noObjectEnd
  /-- A word begins like one of the three words of JSON, and is none. -/
  | noWord
  | noValue
  | badEscape
  | badNumber
  | numberTooLarge
  | badEncoding
  /-- A control character stands in a text unescaped. -/
  | controlInText
  | keyIsNoText
  /-- Half of a surrogate pair. -/
  | loneSurrogate
  /-- The first half of a surrogate pair is followed by something else than an escape. -/
  | brokenPair
  | trailingComma
  | trailing
  /-- A value is of another type. -/
  | wrongType (found expected : String)
  | missingField (name : String)
  | repeatedField (name : String)
  /-- An array has too few or too many items for a record. -/
  | wrongLength (count : Nat) (expected : String)
  deriving DecidableEq, Repr

/-- A name or a mark between grave accents. -/
def marked (s : String) : String := "\x60" ++ s ++ "\x60"

/-- The wording of what is wrong. -/
def FaultKind.text : FaultKind → String
  | .endsInValue => "EOF while parsing a value"
  | .endsInArray => "EOF while parsing a list"
  | .endsInObject => "EOF while parsing an object"
  | .endsInText => "EOF while parsing a string"
  | .noColon => "expected " ++ marked ":"
  | .noArrayEnd => "expected " ++ marked "," ++ " or " ++ marked "]"
  | .noObjectEnd => "expected " ++ marked "," ++ " or " ++ marked "\x7d"
  | .noWord => "expected ident"
  | .noValue => "expected value"
  | .badEscape => "invalid escape"
  | .badNumber => "invalid number"
  | .numberTooLarge => "number out of range"
  | .badEncoding => "invalid unicode code point"
  | .controlInText => "control character (\\u0000-\\u001F) found while parsing a string"
  | .keyIsNoText => "key must be a string"
  | .loneSurrogate => "lone leading surrogate in hex escape"
  | .brokenPair => "unexpected end of hex escape"
  | .trailingComma => "trailing comma"
  | .trailing => "trailing characters"
  | .wrongType found expected => s!"invalid type: {found}, expected {expected}"
  | .missingField name => s!"missing field {marked name}"
  | .repeatedField name => s!"duplicate field {marked name}"
  | .wrongLength count expected => s!"invalid length {count}, expected {expected}"

/-- A place in a text. -/
structure Position where
  line : Nat
  column : Nat
  deriving DecidableEq, Repr

/-- The byte that ends a line. -/
def lineFeed : UInt8 := 10

/-- The place after some bytes. -/
def positionAfter (read : List UInt8) : Position :=
  { line := read.count lineFeed + 1, column := (read.reverse.takeWhile (· != lineFeed)).length }

/-- Something that is wrong, and where, if it is a text in which something is wrong. -/
structure Fault where
  kind : FaultKind
  position : Option Position := none
  deriving DecidableEq, Repr

/-- The wording of a fault. -/
def Fault.message (f : Fault) : String :=
  match f.position with
  | some p => s!"{f.kind.text} at line {p.line} column {p.column}"
  | none => f.kind.text

end ReleaseGate.Json
