import ReleaseGate.Text.LetterCase
import ReleaseGate.Text.Lines
import ReleaseGate.Text.Utf8

/-!
# URLs

An absolute URL of a web server, taken apart the way clients do it: stray blanks and controls are dropped, scheme and host are
lowered, a default number after the host is left out, the path is resolved, and what may not stand in a part is written as percent
signs with two digits. So two spellings of one URL are shown alike.
-/

namespace ReleaseGate.Http

/-- A URL of a web server. -/
structure Url where
  secure : Bool
  host : String
  /-- The number after the host and its colon, when it is not the default one of the scheme. -/
  portNumber : Option Nat
  /-- The names along the path; the last is empty when the path ends in a slash. -/
  path : List String
  /-- What stands after the question mark, when there is one. -/
  query : Option String
  /-- What stands after the number sign, when there is one. -/
  mark : Option String
  deriving DecidableEq, Repr

namespace Url

/-- Why a text is no URL of a web server. -/
inductive Fault where
  /-- It is no absolute URL at all. -/
  | malformed
  /-- It has another scheme. -/
  | otherScheme
  deriving DecidableEq, Repr

/-- Two upper-case hexadecimal digits for a byte. -/
def byteDigits (b : UInt8) : List Char :=
  [(Nat.digitChar (b.toNat / 16)).toUpper, (Nat.digitChar (b.toNat % 16)).toUpper]

/-- A byte behind a percent sign. -/
def percentByte (b : UInt8) : List Char := '%' :: byteDigits b

/-- A text in which every character that is not ASCII and every other that `escaped` names is written byte by byte. -/
def percentEncode (escaped : Char → Bool) (s : List Char) : List Char :=
  s.flatMap fun c =>
    if c.toNat < 0x20 || 0x7e < c.toNat || escaped c then (Text.Utf8.encode c.toString).flatMap percentByte else [c]

/-- The characters that may not stand after the number sign. -/
def escapedInMark (c : Char) : Bool := [' ', '"', '<', '>', '\x60'].contains c

/-- The characters that may not stand in a path. -/
def escapedInPath (c : Char) : Bool := escapedInMark c || ['#', '?', '\x7b', '\x7d'].contains c

/-- The characters that may not stand in a query. -/
def escapedInQuery (c : Char) : Bool := [' ', '"', '#', '<', '>', '\''].contains c

/-- A text in the form of a field of a query: letters, digits and a few marks stay, a blank becomes a plus sign. -/
def formEncode (s : List Char) : List Char :=
  s.flatMap fun c =>
    if c.isAlphanum || ['*', '-', '.', '_'].contains c then [c]
    else if c == ' ' then ['+']
    else (Text.Utf8.encode c.toString).flatMap percentByte

/-- A text without the controls and blanks around it and without the tabs and line ends in it. -/
def stripped (s : List Char) : List Char :=
  let isEdge (c : Char) := c.toNat ≤ 0x20
  let inner := ((s.dropWhile isEdge).reverse.dropWhile isEdge).reverse
  inner.filter fun c => !(c == '\t' || c == '\n' || c == '\r')

/-- The scheme of a URL in lower case, and what follows its colon. -/
def scheme? (s : List Char) : Option (String × List Char) :=
  match Text.cutAtFirst (· == ':') s with
  | some (c :: rest, _, after) =>
    if c.isAlpha && rest.all (fun c => c.isAlphanum || ['+', '-', '.'].contains c) then
      some (String.ofList (Text.lowerAscii (c :: rest)), after)
    else none
  | _ => none

/-- Whether a character separates the names of a path. -/
def isSlash (c : Char) : Bool := c == '/' || c == '\\'

/-- The names along a path, resolved: the name of the same directory leads nowhere, and that of the parent takes back the name
before it. `done` holds the names so far, the last of them first. -/
def resolvePath (done : List String) : List (List Char) → List String
  | [] => done.reverse
  | name :: rest =>
    let plain := Text.replaceEach ['%', '2', 'e'] ['.'] (Text.lowerAscii name)
    if plain == ['.', '.'] then resolvePath (if rest.isEmpty then "" :: done.drop 1 else done.drop 1) rest
    else if plain == ['.'] then resolvePath (if rest.isEmpty then "" :: done else done) rest
    else resolvePath (String.ofList (percentEncode escapedInPath name) :: done) rest

/-- The path of a URL, from its text. -/
def readPath (s : List Char) : List String :=
  let s := if s.head?.any isSlash then s.drop 1 else s
  resolvePath [] (Text.splitAtEach isSlash s)

/-- The characters that no host has. -/
def isForbiddenInHost (c : Char) : Bool :=
  c.toNat ≤ 0x20 || 0x7f ≤ c.toNat || ['#', '%', '/', ':', '<', '>', '?', '@', '[', '\\', ']', '^', '|'].contains c

/-- The number that a part of a numeric host spells, in decimal, or in octal or hexadecimal after `0` or `0x`. -/
def hostNumber? (s : List Char) : Option Nat :=
  let value (base : Nat) (s : List Char) : Option Nat :=
    s.foldlM (fun n c => ((List.range base).find? fun d => Nat.digitChar d == c).map fun d => n * base + d) 0
  match s with
  | [] => none
  | '0' :: 'x' :: digits => value 16 digits
  | '0' :: digits => value 8 digits
  | digits => value 10 digits

/-- The four bytes of a numeric host, of whose parts the last stands for all bytes that are left. -/
def numericHost? (parts : List (List Char)) : Option String :=
  (parts.mapM hostNumber?).bind fun ns =>
    match ns.reverse with
    | [] => none
    | last :: others =>
      if 4 < ns.length || others.any (255 < ·) || Nat.pow 256 (5 - ns.length) ≤ last then none
      else
        let value := others.reverse.zipIdx.foldl (fun sum (n, i) => sum + n * Nat.pow 256 (3 - i)) last
        some (Text.joinText "." ([3, 2, 1, 0].map fun i => toString (value / Nat.pow 256 i % 256)))

/-- A host in lower case; a host whose last part is a number is a numeric one. -/
def readHost? (s : List Char) : Option String :=
  let s := Text.lowerAscii s
  if s.isEmpty then none
  else if s.head? == some '[' then
    if s.getLast? == some ']' then some (String.ofList s) else none
  else if s.any isForbiddenInHost then none
  else
    let parts := Text.fields '.' s
    let parts := if 1 < parts.length && parts.getLast? == some [] then parts.dropLast else parts
    match parts.getLast? with
    | some last =>
      let isHexadecimal := last.take 2 == ['0', 'x'] && (hostNumber? last).isSome
      if !last.isEmpty && (last.all Char.isDigit || isHexadecimal) then numericHost? parts
      else some (String.ofList s)
    | none => none

/-- The host of a URL and the number after it, from the text between the scheme and the path. A name and password before the
host are dropped. -/
def readServer? (defaultNumber : Nat) (s : List Char) : Option (String × Option Nat) :=
  let s := (Text.fields '@' s).getLastD []
  let (bracketed, rest) :=
    match s, Text.cutAtFirst (· == ']') s with
    | '[' :: _, some (before, _, after) => (before ++ [']'], after)
    | _, _ => ([], s)
  let (host, portNumber) :=
    match Text.cutAtFirst (· == ':') rest with
    | some (before, _, after) => (bracketed ++ before, after)
    | none => (bracketed ++ rest, [])
  (readHost? host).bind fun host =>
    if portNumber.isEmpty then some (host, none)
    else if portNumber.all Char.isDigit then
      let n := portNumber.foldl (fun n d => n * 10 + (d.toNat - '0'.toNat)) 0
      if 65535 < n then none else some (host, if n == defaultNumber then none else some n)
    else none

/-- The text before the first character of a kind, and the text after it when there is one. -/
def cut (p : Char → Bool) (s : List Char) : List Char × Option (List Char) :=
  match Text.cutAtFirst p s with
  | some (before, _, after) => (before, some after)
  | none => (s, none)

/-- The URL that a text spells. -/
def read (s : String) : Except Fault Url :=
  match scheme? (stripped s.toList) with
  | none => .error .malformed
  | some (scheme, rest) =>
    if scheme != "http" && scheme != "https" then .error .otherScheme
    else
      let secure := scheme == "https"
      let rest := rest.dropWhile isSlash
      let (rest, mark) := cut (· == '#') rest
      let (rest, query) := cut (· == '?') rest
      let server := rest.takeWhile fun c => !isSlash c
      match readServer? (if secure then 443 else 80) server with
      | none => .error .malformed
      | some (host, portNumber) =>
        .ok
          { secure, host, portNumber, path := readPath (rest.drop server.length)
            query := query.map fun q => String.ofList (percentEncode escapedInQuery q)
            mark := mark.map fun m => String.ofList (percentEncode escapedInMark m) }

/-- A URL with one more field in its query. -/
def withField (u : Url) (name value : String) : Url :=
  let field := String.ofList (formEncode name.toList ++ '=' :: formEncode value.toList)
  match u.query with
  | some q => { u with query := some (if q.isEmpty then field else q ++ "&" ++ field) }
  | none => { u with query := some field }

/-- The text of a URL. -/
def print (u : Url) : String :=
  let scheme := if u.secure then "https://" else "http://"
  let portNumber := (u.portNumber.map fun n => s!":{n}").getD ""
  let query := (u.query.map fun q => s!"?{q}").getD ""
  let mark := (u.mark.map fun m => s!"#{m}").getD ""
  scheme ++ u.host ++ portNumber ++ "/" ++ Text.joinText "/" u.path ++ query ++ mark

instance : ToString Url := ⟨print⟩

end Url

end ReleaseGate.Http
