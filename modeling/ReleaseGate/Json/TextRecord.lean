import ReleaseGate.Json.Described
import ReleaseGate.Json.Fault
import ReleaseGate.Json.Reader
import ReleaseGate.Text.Utf8

/-!
# Records of texts

A record of texts is an object in which each field holds a text, or an array with those texts in order. `read` reads one
straight from the bytes of a file and tells the first fault on the way. It looks only at the fields of the record: the value of
any other member is skipped, and need not even be a text that could be decoded. `ofJson` takes a value that is there already.
-/

namespace ReleaseGate.Json

/-- A record of texts: how messages name it, and its fields in order. -/
structure TextRecord where
  name : String
  fields : List String

namespace TextRecord

/-- A fault with the number of bytes that are still unread. -/
structure Stop where
  kind : FaultKind
  unread : Nat

/-- What reading from the beginning of some bytes gives, and the bytes after it. -/
abbrev Step (α : Type) := Except Stop (α × List UInt8)

/-- The byte of an ASCII character. -/
def byte (c : Char) : UInt8 := c.toNat.toUInt8

/-- Whether a byte may stand between tokens. -/
def isSpaceByte (b : UInt8) : Bool := [byte ' ', byte '\n', byte '\t', byte '\r'].contains b

/-- Bytes from the next token on. -/
def toToken (s : List UInt8) : List UInt8 := s.dropWhile isSpaceByte

/-- The character that a byte is, when it is ASCII. -/
def charOf (b : UInt8) : Char := Char.ofNat b.toNat

/-- A fault that was seen after some bytes had been read. -/
def stopAt {α : Type} (kind : FaultKind) (unread : List UInt8) : Except Stop α := .error ⟨kind, unread.length⟩

/-- A fault that was seen by looking at the next byte, which counts as read. -/
def stopBefore {α : Type} (kind : FaultKind) (unread : List UInt8) : Except Stop α := .error ⟨kind, unread.length - 1⟩

/-! ## Texts -/

/-- Four hexadecimal digits. -/
def hexEscape (s : List UInt8) : Step Nat :=
  match s with
  | a :: b :: c :: d :: rest =>
    match hexQuad? (charOf a) (charOf b) (charOf c) (charOf d) with
    | some n => .ok (n, rest)
    | none => stopAt .badEscape rest
  | _ => stopAt .endsInText []

/-- A backslash and a `u` before the second half of a surrogate pair. -/
def pairMark : List UInt8 → Step Unit
  | [] => stopAt .endsInText []
  | a :: rest =>
    if a == byte '\\' then
      match rest with
      | [] => stopAt .endsInText []
      | b :: rest => if b == byte 'u' then .ok ((), rest) else stopAt .brokenPair rest
    else stopAt .brokenPair rest

/-- The character of an escape with hexadecimal digits, after its mark. -/
def unicodeEscape (s : List UInt8) : Step Char :=
  (hexEscape s).bind fun (n, rest) =>
    if isLowSurrogate n then stopAt .loneSurrogate rest
    else if isHighSurrogate n then
      (pairMark rest).bind fun ((), rest) =>
        (hexEscape rest).bind fun (m, rest) =>
          if isLowSurrogate m then .ok (Char.ofNat (pairValue n m), rest) else stopAt .loneSurrogate rest
    else .ok (Char.ofNat n, rest)

/-- The character of an escape, after its backslash. -/
def escape : List UInt8 → Step Char
  | [] => stopAt .endsInText []
  | e :: rest =>
    if e == byte 'u' then unicodeEscape rest
    else
      match unescape? (charOf e) with
      | some c => .ok (c, rest)
      | none => stopAt .badEscape rest

/-- The bytes of a text after its opening quote, with escapes resolved. At most `fuel` bytes and escapes are read. -/
def textBytes : Nat → List UInt8 → List UInt8 → Step (List UInt8)
  | 0, _, s => stopAt .endsInText s
  | fuel + 1, read, s =>
    match s with
    | [] => stopAt .endsInText []
    | b :: rest =>
      if b == byte '"' then .ok (read.reverse, rest)
      else if b == byte '\\' then
        (escape rest).bind fun (c, rest) => textBytes fuel ((Text.Utf8.encode (String.singleton c)).reverse ++ read) rest
      else if b < 0x20 then stopAt .controlInText rest
      else textBytes fuel (b :: read) rest

/-- A text after its opening quote. -/
def textAfterQuote (s : List UInt8) : Step String :=
  (textBytes (s.length + 1) [] s).bind fun (bytes, rest) =>
    match Text.Utf8.decode bytes with
    | some text => .ok (text, rest)
    | none => stopAt .badEncoding rest

/-! ## Numbers and words -/

/-- Digits, and the bytes after them. -/
def digitBytes (s : List UInt8) : List UInt8 × List UInt8 := s.span fun b => (charOf b).isDigit

/-- What follows the exponent of a numeral, after its mark. -/
def afterExponent (s : List UInt8) : Except Stop (List UInt8) :=
  let unsigned :=
    match s with
    | b :: rest => if b == byte '+' || b == byte '-' then rest else s
    | [] => []
  match unsigned with
  | [] => stopAt .endsInValue []
  | b :: rest => if (charOf b).isDigit then .ok (digitBytes rest).2 else stopAt .badNumber rest

/-- What follows a numeral, from the end of its whole part on. -/
def afterWhole (s : List UInt8) : Except Stop (List UInt8) :=
  let exponent (s : List UInt8) : Except Stop (List UInt8) :=
    match s with
    | b :: rest => if b == byte 'e' || b == byte 'E' then afterExponent rest else .ok s
    | [] => .ok []
  match s with
  | b :: rest =>
    if b == byte '.' then
      match digitBytes rest with
      | ([], []) => stopBefore .endsInValue []
      | ([], rest) => stopBefore .badNumber rest
      | (_, rest) => exponent rest
    else exponent s
  | [] => .ok []

/-- What follows a numeral, after its sign. -/
def afterNumeral : List UInt8 → Except Stop (List UInt8)
  | [] => stopAt .endsInValue []
  | b :: rest =>
    if b == byte '0' then
      match rest with
      | d :: _ => if (charOf d).isDigit then stopBefore .badNumber rest else afterWhole rest
      | [] => .ok []
    else if (charOf b).isDigit then afterWhole (digitBytes rest).2
    else stopAt .badNumber rest

/-- What follows the rest of a word that a value begins like. -/
def afterWord : List Char → List UInt8 → Except Stop (List UInt8)
  | [], s => .ok s
  | _ :: _, [] => stopAt .endsInValue []
  | c :: word, b :: rest => if b == byte c then afterWord word rest else stopAt .noWord rest

/-! ## Values of another type -/

/-- The fault of a value that is there in place of what was expected. Of an array or an object only the beginning is looked at. -/
def mismatch {α : Type} (expected : String) (s : List UInt8) : Except Stop α :=
  let wrong (value : Json) (unread : List UInt8) : Except Stop α := stopAt (.wrongType (described value) expected) unread
  let word (value : Json) (rest : String) (s : List UInt8) : Except Stop α :=
    (afterWord rest.toList s).bind (wrong value)
  let number (unsigned : List UInt8) : Except Stop α :=
    (afterNumeral unsigned).bind fun rest =>
      let numeral := (s.take (s.length - rest.length)).map charOf
      if Number.isTooLarge numeral then stopAt .numberTooLarge rest else wrong (.numeral (String.ofList numeral)) rest
  match s with
  | [] => stopBefore .endsInValue []
  | b :: rest =>
    match charOf b with
    | 'n' => word .null "ull" rest
    | 't' => word (.bool true) "rue" rest
    | 'f' => word (.bool false) "alse" rest
    | '-' => number rest
    | '"' => (textAfterQuote rest).bind fun (text, rest) => wrong (.str text) rest
    | '[' => wrong (.array []) s
    | '\x7b' => wrong (.object []) s
    | c => if c.isDigit then number s else stopBefore .noValue s

/-- How messages name a text. -/
def textName : String := "a string"

/-- A value that should be a text. -/
def text (s : List UInt8) : Step String :=
  match toToken s with
  | b :: rest => if b == byte '"' then textAfterQuote rest else mismatch textName (b :: rest)
  | [] => mismatch textName []

/-! ## Skipped values -/

/-- What follows an escape in a text that is skipped, after its backslash. -/
def afterEscape : List UInt8 → Except Stop (List UInt8)
  | [] => stopAt .endsInText []
  | e :: rest =>
    if e == byte 'u' then (hexEscape rest).map (·.2)
    else if (unescape? (charOf e)).isSome then .ok rest
    else stopAt .badEscape rest

/-- What follows a text that is skipped, after its opening quote. -/
def afterText : Nat → List UInt8 → Except Stop (List UInt8)
  | 0, s => stopAt .endsInText s
  | fuel + 1, s =>
    match s with
    | [] => stopAt .endsInText []
    | b :: rest =>
      if b == byte '"' then .ok rest
      else if b == byte '\\' then (afterEscape rest).bind (afterText fuel)
      else if b < 0x20 then stopAt .controlInText s
      else afterText fuel rest

/-- What follows a numeral that is skipped, from the end of its whole part on. -/
def afterSkippedWhole (s : List UInt8) : Except Stop (List UInt8) :=
  let exponent (s : List UInt8) : Except Stop (List UInt8) :=
    match s with
    | b :: rest =>
      if b == byte 'e' || b == byte 'E' then
        match afterExponent rest with
        | .error ⟨.endsInValue, unread⟩ => .error ⟨.badNumber, unread⟩
        | result => result
      else .ok s
    | [] => .ok []
  match s with
  | b :: rest =>
    if b == byte '.' then
      match digitBytes rest with
      | ([], rest) => stopBefore .badNumber rest
      | (_, rest) => exponent rest
    else exponent s
  | [] => .ok []

/-- What follows a numeral that is skipped, after its sign. -/
def afterSkippedNumeral : List UInt8 → Except Stop (List UInt8)
  | [] => stopAt .badNumber []
  | b :: rest =>
    if b == byte '0' then
      match rest with
      | d :: _ => if (charOf d).isDigit then stopBefore .badNumber rest else afterSkippedWhole rest
      | [] => .ok []
    else if (charOf b).isDigit then afterSkippedWhole (digitBytes rest).2
    else stopAt .badNumber rest

mutual

/-- What follows a value that is skipped. At most `fuel` values are nested in it. -/
def afterValue : Nat → List UInt8 → Except Stop (List UInt8)
  | 0, s => stopAt .endsInValue s
  | fuel + 1, s =>
    match toToken s with
    | [] => stopBefore .endsInValue []
    | b :: rest =>
      match charOf b with
      | 'n' => afterWord "ull".toList rest
      | 't' => afterWord "rue".toList rest
      | 'f' => afterWord "alse".toList rest
      | '-' => afterSkippedNumeral rest
      | '"' => afterText (rest.length + 1) rest
      | '[' => afterItems fuel true rest
      | '\x7b' => afterMembers fuel true rest
      | c => if c.isDigit then afterSkippedNumeral (b :: rest) else stopBefore .noValue (b :: rest)

/-- What follows an array that is skipped, from an item or its end on. -/
def afterItems : Nat → Bool → List UInt8 → Except Stop (List UInt8)
  | 0, _, s => stopAt .endsInValue s
  | fuel + 1, isFirst, s =>
    match toToken s with
    | [] => stopBefore .endsInArray []
    | b :: rest =>
      if b == byte ']' then .ok rest
      else if isFirst then (afterValue fuel (b :: rest)).bind (afterItems fuel false)
      else if b == byte ',' then (afterValue fuel rest).bind (afterItems fuel false)
      else stopBefore .noArrayEnd (b :: rest)

/-- What follows an object that is skipped, from a member or its end on. -/
def afterMembers : Nat → Bool → List UInt8 → Except Stop (List UInt8)
  | 0, _, s => stopAt .endsInValue s
  | fuel + 1, isFirst, s =>
    match toToken s with
    | [] => stopBefore .endsInObject []
    | b :: rest =>
      if b == byte '\x7d' then .ok rest
      else if isFirst then (afterMember fuel (b :: rest)).bind (afterMembers fuel false)
      else if b == byte ',' then (afterMember fuel rest).bind (afterMembers fuel false)
      else stopBefore .noObjectEnd (b :: rest)

/-- What follows a member that is skipped. -/
def afterMember : Nat → List UInt8 → Except Stop (List UInt8)
  | 0, s => stopAt .endsInValue s
  | fuel + 1, s =>
    match toToken s with
    | [] => stopBefore .endsInObject []
    | b :: rest =>
      if b == byte '"' then
        (afterText (rest.length + 1) rest).bind fun rest =>
          match toToken rest with
          | [] => stopBefore .endsInObject []
          | c :: rest => if c == byte ':' then afterValue fuel rest else stopBefore .noColon (c :: rest)
      else stopBefore .keyIsNoText (b :: rest)

end

/-! ## Records -/

/-- The values that were read, in the order of the fields; the first field that is missing is a fault. -/
def collect (r : TextRecord) (found : List (String × String)) : Except FaultKind (List String) :=
  r.fields.mapM fun name =>
    match found.lookup name with
    | some value => .ok value
    | none => .error (.missingField name)

/-- The bytes after a colon. -/
def afterColon (s : List UInt8) : Except Stop (List UInt8) :=
  match toToken s with
  | [] => stopBefore .endsInObject []
  | b :: rest => if b == byte ':' then .ok rest else stopBefore .noColon (b :: rest)

/-- The bytes after the closing brace of an object, if it comes next. -/
def closed (s : List UInt8) : List UInt8 :=
  match toToken s with
  | b :: rest => if b == byte '\x7d' then rest else b :: rest
  | [] => []

/-- The values of an object, from a member or its end on. At most `fuel` members are read. -/
def members (r : TextRecord) : Nat → Bool → List (String × String) → List UInt8 → Step (List String)
  | 0, _, _, s => stopAt .endsInObject s
  | fuel + 1, isFirst, found, s =>
    let member (s : List UInt8) : Step (List String) :=
      match s with
      | [] => stopBefore .endsInValue []
      | b :: rest =>
        if b == byte '"' then
          (textAfterQuote rest).bind fun (name, rest) =>
            if !r.fields.contains name then
              (afterColon rest).bind fun rest => (afterValue (rest.length + 1) rest).bind (members r fuel false found)
            else if (found.lookup name).isSome then stopAt (.repeatedField name) (closed rest)
            else
              (afterColon rest).bind fun rest =>
                (text rest).bind fun (value, rest) => members r fuel false ((name, value) :: found) rest
        else if b == byte '\x7d' then stopBefore .trailingComma (b :: rest)
        else stopBefore .keyIsNoText (b :: rest)
    match toToken s with
    | [] => stopBefore .endsInObject []
    | b :: rest =>
      if b == byte '\x7d' then
        match r.collect found with
        | .ok values => .ok (values, rest)
        | .error kind => stopAt kind rest
      else if isFirst then member (b :: rest)
      else if b == byte ',' then member (toToken rest)
      else stopBefore .noObjectEnd (b :: rest)

/-- How messages name a record with the number of its fields. -/
def sized (r : TextRecord) : String := s!"{r.name} with {r.fields.length} elements"

/-- The values of an array, of which some were read already, for the fields that are left. -/
def elements (r : TextRecord) : List String → List String → List UInt8 → Step (List String)
  | [], read, s =>
    match toToken s with
    | [] => stopBefore .endsInArray []
    | b :: rest =>
      if b == byte ']' then .ok (read.reverse, rest)
      else if b == byte ',' then
        match toToken rest with
        | c :: _ => stopBefore (if c == byte ']' then .trailingComma else .trailing) (toToken rest)
        | [] => stopBefore .trailing []
      else stopBefore .trailing (b :: rest)
  | _ :: left, read, s =>
    let element (s : List UInt8) : Step (List String) :=
      (text s).bind fun (value, rest) => elements r left (value :: read) rest
    match toToken s with
    | [] => stopBefore .endsInArray []
    | b :: rest =>
      if b == byte ']' then stopAt (.wrongLength read.length r.sized) rest
      else if read.isEmpty then element (b :: rest)
      else if b == byte ',' then
        match toToken rest with
        | [] => stopBefore .endsInValue []
        | c :: more => if c == byte ']' then stopBefore .trailingComma (c :: more) else element (c :: more)
      else stopBefore .noArrayEnd (b :: rest)

/-- The values of a record at the beginning of some bytes. -/
def record (r : TextRecord) (s : List UInt8) : Step (List String) :=
  match toToken s with
  | [] => stopBefore .endsInValue []
  | b :: rest =>
    if b == byte '\x7b' then members r (rest.length + 1) true [] rest
    else if b == byte '[' then elements r r.fields [] rest
    else mismatch r.name (b :: rest)

/-- The values of the record that some bytes hold, in the order of its fields. -/
def read (r : TextRecord) (bytes : List UInt8) : Except Fault (List String) :=
  let result : Except Stop (List String) :=
    (r.record bytes).bind fun (values, rest) =>
      if (toToken rest).isEmpty then .ok values else stopBefore .trailing (toToken rest)
  result.mapError fun stop => ⟨stop.kind, some (positionAfter (bytes.take (bytes.length - stop.unread)))⟩

/-- A value that is there already and should be a text. -/
def textOf : Json → Except FaultKind String
  | .str text => .ok text
  | value => .error (.wrongType (described value) textName)

/-- The values of the record that the members of an object make up. -/
def ofMembers (r : TextRecord) : List (String × String) → List (String × Json) → Except FaultKind (List String)
  | found, [] => r.collect found
  | found, (name, value) :: rest =>
    if !r.fields.contains name then ofMembers r found rest
    else if (found.lookup name).isSome then .error (.repeatedField name)
    else (textOf value).bind fun text => ofMembers r ((name, text) :: found) rest

/-- The values of the record that the items of an array make up. -/
def ofItems (r : TextRecord) (items : List Json) : Except FaultKind (List String) :=
  ((items.take r.fields.length).mapM textOf).bind fun values =>
    if values.length < r.fields.length then .error (.wrongLength values.length r.sized)
    else if r.fields.length < items.length then .error (.wrongLength items.length "fewer elements in array")
    else .ok values

/-- The values of the record that a value is, in the order of its fields. -/
def ofJson (r : TextRecord) (value : Json) : Except Fault (List String) :=
  let result : Except FaultKind (List String) :=
    match value with
    | .object members => r.ofMembers [] members
    | .array items => r.ofItems items
    | value => .error (.wrongType (described value) r.name)
  result.mapError fun kind => ⟨kind, none⟩

end TextRecord

end ReleaseGate.Json
