import ReleaseGate.Json.Reader

/-!
# Strings of TOML

A string is basic, with escapes, or literal, and either may go over several lines between triple quotes. A newline right after the
opening quotes is no part of the string, and a backslash at the end of a line takes all blanks and newlines after it away.
-/

namespace ReleaseGate.Toml

/-- A value that was read, and what follows it. -/
abbrev Step (α : Type) := Option (α × List Char)

/-- Whether a character is a blank within a line. -/
def isLineBlank (c : Char) : Bool := c == ' ' || c == '\t'

/-- What follows the newline at the beginning of a text, if there is one. -/
def afterNewline? : List Char → Option (List Char)
  | '\n' :: rest => some rest
  | '\r' :: '\n' :: rest => some rest
  | _ => none

/-- Whether a character may stand in a comment or a string: a tab, or no control. -/
def isPlain (c : Char) : Bool := c == '\t' || (0x20 ≤ c.toNat && c.toNat != 0x7f)

/-- The character that some hexadecimal digits name, if there are so many of them and it is one. -/
def hexChar? (width : Nat) (digits : List Char) : Option Char :=
  if digits.length == width then
    (digits.foldlM (fun n c => (Json.hexValue? c).map fun d => n * 16 + d) 0).bind fun n =>
      if n < 0xd800 || (0xdfff < n && n < 0x110000) then some (Char.ofNat n) else none
  else none

/-- The character of the escape after a backslash, and the number of characters the escape has. -/
def escape? : List Char → Option (Char × Nat)
  | 'b' :: _ => some ('\x08', 1)
  | 't' :: _ => some ('\t', 1)
  | 'n' :: _ => some ('\n', 1)
  | 'f' :: _ => some ('\x0c', 1)
  | 'r' :: _ => some ('\r', 1)
  | '"' :: _ => some ('"', 1)
  | '\\' :: _ => some ('\\', 1)
  | 'u' :: rest => (hexChar? 4 (rest.take 4)).map fun c => (c, 5)
  | 'U' :: rest => (hexChar? 8 (rest.take 8)).map fun c => (c, 9)
  | _ => none

/-- The rest of a basic string on one line; `skip` characters belong to the escape read last. -/
def readBasic (skip : Nat) : List Char → Step (List Char)
  | [] => none
  | c :: rest =>
    match skip with
    | k + 1 => readBasic k rest
    | 0 =>
      if c == '"' then some ([], rest)
      else if c == '\\' then
        (escape? rest).bind fun (e, width) => (readBasic width rest).map fun (s, after) => (e :: s, after)
      else if isPlain c then (readBasic 0 rest).map fun (s, after) => (c :: s, after)
      else none

/-- The rest of a literal string on one line. -/
def readLiteral : List Char → Step (List Char)
  | [] => none
  | c :: rest =>
    if c == '\'' then some ([], rest)
    else if isPlain c then (readLiteral rest).map fun (s, after) => (c :: s, after)
    else none

/-- The number of characters that a backslash at the end of a line takes away after it: at least one newline, and the blanks and
newlines around it. -/
def foldedWidth? (s : List Char) : Option Nat :=
  let blanks := s.takeWhile isLineBlank
  (afterNewline? (s.drop blanks.length)).map fun rest =>
    s.length - (dropFolded rest).length
where
  /-- A text without the blanks and newlines at its beginning. -/
  dropFolded : List Char → List Char
    | '\r' :: '\n' :: rest => dropFolded rest
    | ' ' :: rest => dropFolded rest
    | '\t' :: rest => dropFolded rest
    | '\n' :: rest => dropFolded rest
    | s => s

/-- The quotes at the end of a string over several lines: how many of them belong to the string, and what follows. A string may
end in two quotes of its own. -/
def closing? (quote : Char) (s : List Char) : Option (Nat × List Char) :=
  let run := (s.takeWhile (· == quote)).length
  if run < 3 then none else some (min (run - 3) 2, s.drop (min run 5))

/-- The rest of a string over several lines; `skip` characters belong to what was read last. -/
def readLines (quote : Char) (skip : Nat) : List Char → Step (List Char)
  | [] => none
  | c :: rest =>
    match skip with
    | k + 1 => readLines quote k rest
    | 0 =>
      match closing? quote (c :: rest) with
      | some (own, after) => some (List.replicate own quote, after)
      | none =>
        if c == '\\' && quote == '"' then
          match foldedWidth? rest with
          | some width => readLines quote width rest
          | none => (escape? rest).bind fun (e, width) => (readLines quote width rest).map fun (s, after) => (e :: s, after)
        else if c == '\r' then
          if rest.head? == some '\n' then readLines quote 0 rest else none
        else if c == '\n' || isPlain c then (readLines quote 0 rest).map fun (s, after) => (c :: s, after)
        else none

/-- A string on one line. -/
def readLineString : List Char → Step String
  | '"' :: rest => (readBasic 0 rest).map fun (s, after) => (String.ofList s, after)
  | '\'' :: rest => (readLiteral rest).map fun (s, after) => (String.ofList s, after)
  | _ => none

/-- A string of any form. -/
def readString (s : List Char) : Step String :=
  match s with
  | '"' :: '"' :: '"' :: rest => body '"' rest
  | '\'' :: '\'' :: '\'' :: rest => body '\'' rest
  | s => readLineString s
where
  /-- A string over several lines, after its opening quotes. -/
  body (quote : Char) (s : List Char) : Step String :=
    (readLines quote 0 ((afterNewline? s).getD s)).map fun (s, after) => (String.ofList s, after)

end ReleaseGate.Toml
