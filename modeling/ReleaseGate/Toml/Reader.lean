import ReleaseGate.Toml.Document
import ReleaseGate.Toml.Scalar
import ReleaseGate.Toml.Text

/-!
# Reading TOML

A document is read from its first character to its last, one line after another; a value between brackets may go on over several
lines. Every call reads at least one character or is followed by one that does, so that twice the length of the text bounds the
depth of calls.
-/

namespace ReleaseGate.Toml

/-- A text from the first character that is no blank within a line. -/
def skipBlanks (s : List Char) : List Char := s.dropWhile isLineBlank

/-- A text from its next newline or its end, when all before it are blanks or a comment. -/
def skipComment (s : List Char) : Option (List Char) :=
  match skipBlanks s with
  | '#' :: rest =>
    let after := rest.dropWhile isPlain
    if after.isEmpty || (afterNewline? after).isSome then some after else none
  | [] => some []
  | s => if (afterNewline? s).isSome then some s else none

/-- A text from the first character that is no blank, newline or comment; `inComment` says that a comment has begun. -/
def skipGap (inComment : Bool) : List Char → Option (List Char)
  | [] => some []
  | '\n' :: rest => skipGap false rest
  | ['\r'] => none
  | '\r' :: c :: rest => if c == '\n' then skipGap false rest else none
  | c :: rest =>
    if inComment then if isPlain c then skipGap true rest else none
    else if c == '#' then skipGap true rest
    else if isLineBlank c then skipGap false rest
    else some (c :: rest)

/-- Whether a character can stand in a key without quotes. -/
def isKeyChar (c : Char) : Bool := c.isAlphanum || c == '_' || c == '-'

/-- One part of a key. -/
def readKeyPart (s : List Char) : Step String :=
  match s with
  | '"' :: _ => readLineString s
  | '\'' :: _ => readLineString s
  | s =>
    let name := s.takeWhile isKeyChar
    if name.isEmpty then none else some (String.ofList name, s.drop name.length)

/-- The parts of a key between dots, and what follows the blanks after it. -/
def readKeyParts : Nat → List Char → Step (List String)
  | 0, _ => none
  | fuel + 1, s =>
    (readKeyPart (skipBlanks s)).bind fun (part, rest) =>
      match skipBlanks rest with
      | '.' :: rest => (readKeyParts fuel rest).map fun (parts, rest) => (part :: parts, rest)
      | rest => some ([part], rest)

/-- The depth of nesting, and the number of parts of a key, that is too much. -/
def nestingLimit : Nat := 80

/-- A key: the names on the way, and its own. -/
def readKey (s : List Char) : Step (List String × String) :=
  (readKeyParts (nestingLimit - 1) s).bind fun (parts, rest) => parts.getLast?.map fun name => ((parts.dropLast, name), rest)

mutual

/-- A value inside so many others. -/
def readValue (fuel depth : Nat) (s : List Char) : Step Value :=
  match fuel with
  | 0 => none
  | fuel + 1 =>
    match s with
    | '"' :: _ => (readString s).map fun (text, rest) => (.str text, rest)
    | '\'' :: _ => (readString s).map fun (text, rest) => (.str text, rest)
    | '[' :: rest =>
      if nestingLimit ≤ depth + 1 then none
      else
        (skipGap false rest).bind fun rest =>
          (readItems fuel (depth + 1) rest).map fun (items, rest) => (.array true items, rest)
    | '\x7b' :: rest =>
      if nestingLimit ≤ depth + 1 then none
      else
        match skipBlanks rest with
        | '\x7d' :: rest => some (.table .inline [], rest)
        | rest => (readPairs fuel (depth + 1) ⟨.inline, []⟩ rest).map fun (t, rest) => (.table .inline t.members, rest)
    | s =>
      let (word, rest) := cutWord s
      (scalar? word).map fun v => (v, rest)

/-- The items of an array, from the first of them or its closing bracket. -/
def readItems (fuel depth : Nat) (s : List Char) : Step (List Value) :=
  match fuel with
  | 0 => none
  | fuel + 1 =>
    match s with
    | ']' :: rest => some ([], rest)
    | s =>
      (readValue fuel depth s).bind fun (item, rest) =>
        (skipGap false rest).bind fun rest =>
          match rest with
          | ',' :: rest =>
            (skipGap false rest).bind fun rest => (readItems fuel depth rest).map fun (items, rest) => (item :: items, rest)
          | ']' :: rest => some ([item], rest)
          | _ => none

/-- The pairs of a table between braces, added to those read before. -/
def readPairs (fuel depth : Nat) (t : Table) (s : List Char) : Step Table :=
  match fuel with
  | 0 => none
  | fuel + 1 =>
    (readKey s).bind fun (key, rest) =>
      match rest with
      | '=' :: rest =>
        (readValue fuel depth (skipBlanks rest)).bind fun (v, rest) =>
          (t.insertAt key v).bind fun t =>
            match skipBlanks rest with
            | ',' :: rest => readPairs fuel depth t rest
            | '\x7d' :: rest => some (t, rest)
            | _ => none
      | _ => none

end

/-- The document after one more line, and what follows that line up to its newline. -/
def readLine (d : Document) (s : List Char) : Step Document :=
  match skipBlanks s with
  | '[' :: '[' :: rest =>
    (readKey rest).bind fun (key, rest) =>
      match rest with
      | ']' :: ']' :: rest => (d.itemHeader key).map fun d => (d, rest)
      | _ => none
  | '[' :: rest =>
    (readKey rest).bind fun (key, rest) =>
      match rest with
      | ']' :: rest => (d.header key).map fun d => (d, rest)
      | _ => none
  | s =>
    if (skipComment s).isSome then some (d, s)
    else
      (readKey s).bind fun (key, rest) =>
        match rest with
        | '=' :: rest =>
          (readValue (2 * rest.length + 2) 0 (skipBlanks rest)).bind fun (v, rest) => (d.pair key v).map fun d => (d, rest)
        | _ => none

/-- The document after all lines. -/
def readDocument : Nat → Document → List Char → Option Document
  | 0, _, _ => none
  | fuel + 1, d, s =>
    (readLine d s).bind fun (d, rest) =>
      (skipComment rest).bind fun rest =>
        match afterNewline? rest with
        | some rest => readDocument fuel d rest
        | none => some d

/-- The value of a document, which may begin with a byte-order mark. -/
def parse? (s : String) : Option Value :=
  let s := (Text.withoutStart? "\ufeff" s).getD s
  (readDocument (s.length + 1) {} s.toList).map Document.value

end ReleaseGate.Toml
