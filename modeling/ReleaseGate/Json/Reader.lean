import ReleaseGate.Json.Value

/-!
# Reading JSON

The reader takes exactly the texts of the JSON grammar, with nothing but blanks around the value. It looks one character ahead and
never goes back; each call reads at least one character or is the only call before one is read, which bounds the depth of calls by
twice the length of the text.
-/

namespace ReleaseGate.Json

/-- Whether a character may stand between tokens. -/
def isSpace (c : Char) : Bool := c == ' ' || c == '\n' || c == '\t' || c == '\r'

/-- A text from its next token. -/
def skipSpaces (s : List Char) : List Char := s.dropWhile isSpace

/-- The value of a hexadecimal digit of either case. -/
def hexValue? (c : Char) : Option Nat :=
  if c.isDigit then some (c.toNat - '0'.toNat)
  else if 'a' ≤ c && c ≤ 'f' then some (c.toNat - 'a'.toNat + 10)
  else if 'A' ≤ c && c ≤ 'F' then some (c.toNat - 'A'.toNat + 10)
  else none

/-- The value of four hexadecimal digits. -/
def hexQuad? (a b c d : Char) : Option Nat :=
  match hexValue? a, hexValue? b, hexValue? c, hexValue? d with
  | some a, some b, some c, some d => some (a * 4096 + b * 256 + c * 16 + d)
  | _, _, _, _ => none

/-- The character that a one-letter escape stands for. -/
def unescape? : Char → Option Char
  | '"' => some '"'
  | '\\' => some '\\'
  | '/' => some '/'
  | 'b' => some '\x08'
  | 'f' => some '\x0c'
  | 'n' => some '\n'
  | 'r' => some '\r'
  | 't' => some '\t'
  | _ => none

/-- Whether a number is the first half of a surrogate pair. -/
def isHighSurrogate (n : Nat) : Bool := 0xd800 ≤ n && n ≤ 0xdbff

/-- Whether a number is the second half of a surrogate pair. -/
def isLowSurrogate (n : Nat) : Bool := 0xdc00 ≤ n && n ≤ 0xdfff

/-- The code point of a surrogate pair. -/
def pairValue (high low : Nat) : Nat := 0x10000 + (high - 0xd800) * 0x400 + (low - 0xdc00)

/-- The characters of a string after its opening quote, and what follows its closing quote. A surrogate stands only in a pair,
and a control character only as an escape. -/
def readText : List Char → Option (List Char × List Char)
  | [] => none
  | '"' :: rest => some ([], rest)
  | '\\' :: 'u' :: a :: b :: c :: d :: rest =>
    match hexQuad? a b c d with
    | none => none
    | some n =>
      if isLowSurrogate n then none
      else if isHighSurrogate n then
        match rest with
        | '\\' :: 'u' :: e :: f :: g :: h :: rest =>
          match hexQuad? e f g h with
          | none => none
          | some m =>
            if isLowSurrogate m then (readText rest).map fun (cs, r) => (Char.ofNat (pairValue n m) :: cs, r) else none
        | _ => none
      else (readText rest).map fun (cs, r) => (Char.ofNat n :: cs, r)
  | '\\' :: e :: rest =>
    match unescape? e with
    | none => none
    | some c => (readText rest).map fun (cs, r) => (c :: cs, r)
  | c :: rest => if c.toNat < 0x20 || c == '\\' then none else (readText rest).map fun (cs, r) => (c :: cs, r)

/-- One or more digits at the start of a text, and what follows. -/
def digits? (s : List Char) : Option (List Char × List Char) :=
  let ds := s.takeWhile Char.isDigit
  if ds.isEmpty then none else some (ds, s.dropWhile Char.isDigit)

/-- The integer part of a numeral: a lone zero, or digits that begin with another. -/
def integer? : List Char → Option (List Char × List Char)
  | '0' :: rest => some (['0'], rest)
  | s => digits? s

/-- The fraction of a numeral, which may be left out. -/
def fraction? : List Char → Option (List Char × List Char)
  | '.' :: rest => (digits? rest).map fun (ds, rest) => ('.' :: ds, rest)
  | s => some ([], s)

/-- The exponent of a numeral, which may be left out. -/
def exponent? : List Char → Option (List Char × List Char)
  | e :: rest =>
    if e == 'e' || e == 'E' then
      match rest with
      | sign :: more =>
        if sign == '+' || sign == '-' then (digits? more).map fun (ds, r) => (e :: sign :: ds, r)
        else (digits? rest).map fun (ds, r) => (e :: ds, r)
      | [] => none
    else some ([], e :: rest)
  | [] => some ([], [])

/-- The value of some digits. -/
def digitsValue (ds : List Char) : Nat := ds.foldl (fun n d => n * 10 + (d.toNat - '0'.toNat)) 0

/-- The number at the start of a text, and what follows. -/
def readNumber (s : List Char) : Option (Json × List Char) :=
  let (sign, unsigned) :=
    match s with
    | '-' :: rest => (['-'], rest)
    | s => ([], s)
  match integer? unsigned with
  | none => none
  | some (int, rest) =>
    match fraction? rest with
    | none => none
    | some (frac, rest) =>
      match exponent? rest with
      | none => none
      | some (exp, rest) =>
        if sign.isEmpty && frac.isEmpty && exp.isEmpty then some (natural (digitsValue int), rest)
        else some (numeral (String.ofList (sign ++ int ++ frac ++ exp)), rest)

mutual

/-- The value at the start of a text, and what follows. -/
def readValue : Nat → List Char → Option (Json × List Char)
  | 0, _ => none
  | fuel + 1, s =>
    match skipSpaces s with
    | 'n' :: 'u' :: 'l' :: 'l' :: rest => some (null, rest)
    | 't' :: 'r' :: 'u' :: 'e' :: rest => some (bool true, rest)
    | 'f' :: 'a' :: 'l' :: 's' :: 'e' :: rest => some (bool false, rest)
    | '"' :: rest => (readText rest).map fun (cs, r) => (str (String.ofList cs), r)
    | '[' :: rest =>
      match skipSpaces rest with
      | ']' :: rest => some (array [], rest)
      | rest => (readItems fuel rest).map fun (items, r) => (array items, r)
    | '\x7b' :: rest =>
      match skipSpaces rest with
      | '\x7d' :: rest => some (object [], rest)
      | rest => (readMembers fuel rest).map fun (members, r) => (object members, r)
    | s => readNumber s

/-- The items of an array from one of them on, and what follows the array. -/
def readItems : Nat → List Char → Option (List Json × List Char)
  | 0, _ => none
  | fuel + 1, s =>
    match readValue fuel s with
    | none => none
    | some (item, rest) =>
      match skipSpaces rest with
      | ',' :: rest => (readItems fuel rest).map fun (items, r) => (item :: items, r)
      | ']' :: rest => some ([item], rest)
      | _ => none

/-- The members of an object from one of them on, and what follows the object. -/
def readMembers : Nat → List Char → Option (List (String × Json) × List Char)
  | 0, _ => none
  | fuel + 1, s =>
    match skipSpaces s with
    | '"' :: rest =>
      match readText rest with
      | none => none
      | some (name, rest) =>
        match skipSpaces rest with
        | ':' :: rest =>
          match readValue fuel rest with
          | none => none
          | some (value, rest) =>
            match skipSpaces rest with
            | ',' :: rest => (readMembers fuel rest).map fun (members, r) => ((String.ofList name, value) :: members, r)
            | '\x7d' :: rest => some ([(String.ofList name, value)], rest)
            | _ => none
        | _ => none
    | _ => none

end

/-- The value that a text holds, if it is JSON. -/
def parse? (s : String) : Option Json :=
  match readValue (2 * s.toList.length + 2) s.toList with
  | some (value, rest) => if (skipSpaces rest).isEmpty then some value else none
  | none => none

end ReleaseGate.Json
