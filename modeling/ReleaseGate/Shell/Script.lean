import ReleaseGate.Text.Blank
import ReleaseGate.Text.Lines

/-!
# Shell scripts

The commands that a short build script is made of, and how they are read. Words keep what has to be expanded in them as pieces;
the text of a command substitution is read when it is run.
-/

namespace ReleaseGate.Shell

/-- A piece of a word. Between double quotes what comes of a piece is not split into words. -/
inductive Piece where
  | text (quoted : Bool) (s : List Char)
  /-- The value of a variable, or else a text, also when the variable is empty if `emptyToo` says so. -/
  | parameter (quoted : Bool) (name : String) (emptyToo : Bool) (otherwise : Option (List Char))
  | arithmetic (quoted : Bool) (expression : List Char)
  | script (quoted : Bool) (text : List Char)
  deriving Inhabited

/-- A word, before anything is expanded. -/
abbrev Word := List Piece

/-- What a redirection does with its target. -/
inductive Direction where
  | read
  | write
  | append
  /-- The target is the number of a stream. -/
  | duplicate
  deriving DecidableEq

/-- A redirection of the stream of some number. -/
structure Redirection where
  stream : Nat
  direction : Direction
  target : Word

/-- A command. -/
inductive Command where
  | simple (assignments : List (String × Word)) (words : List Word) (redirections : List Redirection)
  /-- Commands in braces, or in parentheses when they are `isolated`. -/
  | group (isolated : Bool) (body : List Command) (redirections : List Redirection)
  | branch (condition body otherwise : List Command)
  /-- A loop while its condition holds, or as long as it does not. -/
  | loop (holds : Bool) (condition body : List Command)
  | each (name : String) (words : List Word) (body : List Command)
  | both (first second : Command)
  | either (first second : Command)
  | negation (c : Command)
  | pipe (first second : Command)
  deriving Inhabited

/-- What was read, and what follows it. -/
abbrev Reading (α : Type) := Option (α × List Char)

/-- Whether a character ends a word that is not quoted. -/
def isWordEnd (c : Char) : Bool := [' ', '\t', '\n', ';', '&', '|', '<', '>', '(', ')'].contains c

/-- Whether a character can stand in a name. -/
def isNameChar (c : Char) : Bool := c.isAlphanum || c == '_'

/-- Whether a text is the name of a variable. -/
def isName : List Char → Bool
  | [] => false
  | c :: rest => !c.isDigit && (c :: rest).all isNameChar

/-- The text up to the parenthesis that closes the one before it; quoted parentheses do not count. -/
def untilClosed (depth : Nat) (quote : Option Char) : List Char → Reading (List Char)
  | [] => none
  | '\\' :: c :: rest =>
    if quote == some '\'' then (untilClosed depth quote (c :: rest)).map fun (s, after) => ('\\' :: s, after)
    else (untilClosed depth quote rest).map fun (s, after) => ('\\' :: c :: s, after)
  | c :: rest =>
    match quote with
    | some q => (untilClosed depth (if c == q then none else some q) rest).map fun (s, after) => (c :: s, after)
    | none =>
      if c == ')' then
        match depth with
        | 0 => some ([], rest)
        | depth + 1 => (untilClosed depth none rest).map fun (s, after) => (c :: s, after)
      else
        let quote := if c == '\'' || c == '"' then some c else none
        (untilClosed (if c == '(' then depth + 1 else depth) quote rest).map fun (s, after) => (c :: s, after)

/-- What a dollar sign begins. -/
def readDollar (quoted : Bool) (s : List Char) : Piece × List Char :=
  let plain : Piece × List Char := (.text quoted ['$'], s)
  match s with
  | '(' :: '(' :: rest =>
    match untilClosed 0 none rest with
    | some (expression, ')' :: after) => (.arithmetic quoted expression, after)
    | _ => plain
  | '(' :: rest =>
    match untilClosed 0 none rest with
    | some (text, after) => (.script quoted text, after)
    | none => plain
  | '\x7b' :: rest =>
    match Text.cutAtFirst (· == '\x7d') rest with
    | some (inside, _, after) =>
      let name := inside.takeWhile isNameChar
      let piece (emptyToo : Bool) (otherwise : Option (List Char)) : Piece × List Char :=
        (.parameter quoted (String.ofList name) emptyToo otherwise, after)
      match inside.drop name.length with
      | [] => piece false none
      | ':' :: '-' :: text => piece true (some text)
      | '-' :: text => piece false (some text)
      | _ => plain
    | none => plain
  | c :: rest =>
    if ['$', '?', '#', '@', '*', '!'].contains c || c.isDigit then (.parameter quoted c.toString false none, rest)
    else
      let name := s.takeWhile isNameChar
      if name.isEmpty then plain else (.parameter quoted (String.ofList name) false none, s.drop name.length)
  | [] => plain

/-- The text up to a closing mark, and what follows it. -/
def untilMark (mark : Char) (s : List Char) : Reading (List Char) :=
  (Text.cutAtFirst (· == mark) s).map fun (before, _, after) => (before, after)

/-- The pieces up to the closing double quote. -/
def readQuoted : Nat → List Char → Reading (List Piece)
  | 0, _ => none
  | fuel + 1, s =>
    let go (piece : List Piece) (rest : List Char) := (readQuoted fuel rest).map fun (pieces, after) => (piece ++ pieces, after)
    match s with
    | [] => none
    | '"' :: rest => some ([], rest)
    | '\\' :: c :: rest =>
      if c == '\n' then go [] rest
      else if ['$', '"', '\\', '\x60'].contains c then go [.text true [c]] rest
      else go [.text true ['\\', c]] rest
    | '$' :: rest =>
      let (piece, rest) := readDollar true rest
      go [piece] rest
    | '\x60' :: rest => (untilMark '\x60' rest).bind fun (text, rest) => go [.script true text] rest
    | c :: rest => go [.text true [c]] rest

/-- The pieces of a word. -/
def readPieces : Nat → List Char → Reading (List Piece)
  | 0, _ => none
  | fuel + 1, s =>
    let go (piece : List Piece) (rest : List Char) := (readPieces fuel rest).map fun (pieces, after) => (piece ++ pieces, after)
    match s with
    | [] => some ([], [])
    | '\'' :: rest => (untilMark '\'' rest).bind fun (text, rest) => go [.text true text] rest
    | '"' :: rest => (readQuoted (fuel + 1) rest).bind fun (pieces, rest) => go (.text true [] :: pieces) rest
    | '\\' :: '\n' :: rest => go [] rest
    | '\\' :: c :: rest => go [.text true [c]] rest
    | '$' :: rest =>
      let (piece, rest) := readDollar false rest
      go [piece] rest
    | '\x60' :: rest => (untilMark '\x60' rest).bind fun (text, rest) => go [.script false text] rest
    | c :: rest => if isWordEnd c then some ([], c :: rest) else go [.text false [c]] rest

/-- A word. -/
def readWord (s : List Char) : Reading Word :=
  (readPieces (s.length + 1) s).bind fun (pieces, rest) => if rest.length < s.length then some (pieces, rest) else none

/-- The text of a word without quotes and expansions, from the first character on. -/
def plainText : Word → List Char
  | .text false s :: rest => s ++ plainText rest
  | _ => []

/-- A word without so many plain characters at its beginning. -/
def dropPlain : Nat → Word → Word
  | 0, w => w
  | n + 1, .text quoted (_ :: s) :: rest => dropPlain n (.text quoted s :: rest)
  | n + 1, .text _ [] :: rest => dropPlain (n + 1) rest
  | _ + 1, w => w
termination_by n w => (n, w.length)

/-- The variable and the value of an assignment. -/
def assignment? (w : Word) : Option (String × Word) :=
  match Text.cutAtFirst (· == '=') (plainText w) with
  | some (name, _, _) => if isName name then some (String.ofList name, dropPlain (name.length + 1) w) else none
  | none => none

/-- A text from the first character that is no blank within a line; a backslash joins a line to the next, and a comment goes up
to the newline. -/
def skipBlank : List Char → List Char
  | ' ' :: rest => skipBlank rest
  | '\t' :: rest => skipBlank rest
  | '\\' :: '\n' :: rest => skipBlank rest
  | '#' :: rest => rest.dropWhile (· != '\n')
  | s => s

/-- A text from the first character of its next command. -/
def skipBetween : Nat → List Char → List Char
  | 0, s => s
  | fuel + 1, s =>
    match skipBlank s with
    | '\n' :: rest => skipBetween fuel rest
    | s => s

/-- A redirection, when one comes next. -/
def readRedirection? (s : List Char) : Reading Redirection :=
  let digits := s.takeWhile Char.isDigit
  let number := digits.foldl (fun n d => n * 10 + (d.toNat - '0'.toNat)) 0
  let target (standard : Nat) (direction : Direction) (rest : List Char) : Reading Redirection :=
    (readWord (skipBlank rest)).map fun (w, rest) =>
      ({ stream := if digits.isEmpty then standard else number, direction, target := w }, rest)
  match s.drop digits.length with
  | '>' :: '>' :: rest => target 1 .append rest
  | '>' :: '&' :: rest => target 1 .duplicate rest
  | '>' :: '|' :: rest => target 1 .write rest
  | '>' :: rest => target 1 .write rest
  | '<' :: '&' :: rest => target 0 .duplicate rest
  | '<' :: '<' :: _ => none
  | '<' :: rest => target 0 .read rest
  | _ => none

/-- The redirections that come next. -/
def readRedirections : Nat → List Char → List Redirection × List Char
  | 0, s => ([], s)
  | fuel + 1, s =>
    match readRedirection? (skipBlank s) with
    | some (r, rest) =>
      let (more, rest) := readRedirections fuel rest
      (r :: more, rest)
    | none => ([], s)

/-- The words and redirections of a simple command, in two lists. -/
def readSimple : Nat → List Char → Reading (List Word × List Redirection)
  | 0, _ => none
  | fuel + 1, s =>
    let s := skipBlank s
    match readRedirection? s with
    | some (r, rest) => (readSimple fuel rest).map fun ((words, redirections), after) => ((words, r :: redirections), after)
    | none =>
      match s with
      | [] => some (([], []), [])
      | c :: _ =>
        if c == '<' || c == '>' then none
        else if isWordEnd c then some (([], []), s)
        else
          (readWord s).bind fun (w, rest) =>
            (readSimple fuel rest).map fun ((words, redirections), after) => ((w :: words, redirections), after)

/-- The assignments at the beginning of some words, and the words after them. -/
def splitAssignments : List Word → List (String × Word) × List Word
  | [] => ([], [])
  | w :: rest =>
    match assignment? w with
    | some a =>
      let (more, words) := splitAssignments rest
      (a :: more, words)
    | none => ([], w :: rest)

/-- The words with a meaning of their own at the beginning of a command. -/
def reserved : List String :=
  ["if", "then", "elif", "else", "fi", "while", "until", "do", "done", "for", "in", "\x7b", "\x7d", "!"]

/-- The reserved word at the beginning of a text, and what follows it. -/
def readReserved? (s : List Char) : Reading String :=
  let word := s.takeWhile fun c => !isWordEnd c
  let text := String.ofList word
  if reserved.contains text then some (text, s.drop word.length) else none

/-- What follows a given reserved word, which newlines may precede. -/
def expect (word : String) (s : List Char) : Option (List Char) :=
  match readReserved? (skipBetween (s.length + 1) s) with
  | some (w, rest) => if w == word then some rest else none
  | none => none

/-- The words up to the end of a line. -/
def readWords : Nat → List Char → Reading (List Word)
  | 0, _ => none
  | fuel + 1, s =>
    match skipBlank s with
    | ';' :: rest => some ([], rest)
    | '\n' :: rest => some ([], rest)
    | s => (readWord s).bind fun (w, rest) => (readWords fuel rest).map fun (words, after) => (w :: words, after)

mutual

/-- Commands up to a reserved word or a parenthesis that is not theirs, or to the end. -/
def readList (fuel : Nat) (s : List Char) : Reading (List Command) :=
  match fuel with
  | 0 => none
  | fuel + 1 =>
    let s := skipBetween (s.length + 1) s
    let isEnd :=
      match readReserved? s with
      | some (w, _) => ["then", "elif", "else", "fi", "do", "done", "\x7d"].contains w
      | none => s.isEmpty || s.head? == some ')'
    if isEnd then some ([], s)
    else
      (readChain fuel s).bind fun (c, rest) =>
        match skipBlank rest with
        | ';' :: rest => (readList fuel rest).map fun (cs, after) => (c :: cs, after)
        | '&' :: rest => (readList fuel rest).map fun (cs, after) => (c :: cs, after)
        | '\n' :: rest => (readList fuel rest).map fun (cs, after) => (c :: cs, after)
        | rest => if rest.isEmpty || rest.head? == some ')' then some ([c], rest) else none

/-- Commands joined by conditions. -/
def readChain (fuel : Nat) (s : List Char) : Reading Command :=
  match fuel with
  | 0 => none
  | fuel + 1 => (readPipe fuel s).bind fun (c, rest) => readJoined fuel c rest

/-- What is joined to a command by conditions. -/
def readJoined (fuel : Nat) (c : Command) (s : List Char) : Reading Command :=
  match fuel with
  | 0 => none
  | fuel + 1 =>
    match skipBlank s with
    | '&' :: '&' :: rest =>
      (readPipe fuel (skipBetween (rest.length + 1) rest)).bind fun (d, rest) => readJoined fuel (.both c d) rest
    | '|' :: '|' :: rest =>
      (readPipe fuel (skipBetween (rest.length + 1) rest)).bind fun (d, rest) => readJoined fuel (.either c d) rest
    | rest => some (c, rest)

/-- Commands joined by pipes. -/
def readPipe (fuel : Nat) (s : List Char) : Reading Command :=
  match fuel with
  | 0 => none
  | fuel + 1 =>
    let s := skipBlank s
    match readReserved? s with
    | some ("!", rest) => (readPipe fuel rest).map fun (c, rest) => (.negation c, rest)
    | _ =>
      (readCommand fuel s).bind fun (c, rest) =>
        match skipBlank rest with
        | '|' :: '|' :: _ => some (c, rest)
        | '|' :: rest => (readPipe fuel (skipBetween (rest.length + 1) rest)).map fun (d, rest) => (.pipe c d, rest)
        | rest => some (c, rest)

/-- A single command. -/
def readCommand (fuel : Nat) (s : List Char) : Reading Command :=
  match fuel with
  | 0 => none
  | fuel + 1 =>
    let redirected (isolated : Bool) (body : List Command) (rest : List Char) : Reading Command :=
      let (redirections, rest) := readRedirections fuel rest
      some (.group isolated body redirections, rest)
    match s with
    | '(' :: rest =>
      (readList fuel rest).bind fun (body, rest) =>
        match rest with
        | ')' :: rest => redirected true body rest
        | _ => none
    | s =>
      match readReserved? s with
      | some ("\x7b", rest) =>
        (readList fuel rest).bind fun (body, rest) => (expect "\x7d" rest).bind fun rest => redirected false body rest
      | some ("if", rest) =>
        (readBranch fuel rest).bind fun (c, rest) => redirected false [c] rest
      | some ("while", rest) => (readLoop fuel true rest).bind fun (c, rest) => redirected false [c] rest
      | some ("until", rest) => (readLoop fuel false rest).bind fun (c, rest) => redirected false [c] rest
      | some ("for", rest) => (readEach fuel (skipBlank rest)).bind fun (c, rest) => redirected false [c] rest
      | some _ => none
      | none =>
        (readSimple (s.length + 1) s).bind fun ((words, redirections), rest) =>
          if words.isEmpty && redirections.isEmpty then none
          else
            let (assignments, words) := splitAssignments words
            some (.simple assignments words redirections, rest)

/-- The rest of a conditional after its first word. -/
def readBranch (fuel : Nat) (s : List Char) : Reading Command :=
  match fuel with
  | 0 => none
  | fuel + 1 =>
    (readList fuel s).bind fun (condition, rest) =>
      (expect "then" rest).bind fun rest =>
        (readList fuel rest).bind fun (body, rest) =>
          match readReserved? rest with
          | some ("fi", rest) => some (.branch condition body [], rest)
          | some ("else", rest) =>
            (readList fuel rest).bind fun (otherwise, rest) =>
              (expect "fi" rest).map fun rest => (.branch condition body otherwise, rest)
          | some ("elif", rest) => (readBranch fuel rest).map fun (c, rest) => (.branch condition body [c], rest)
          | _ => none

/-- The rest of a loop after its first word. -/
def readLoop (fuel : Nat) (holds : Bool) (s : List Char) : Reading Command :=
  match fuel with
  | 0 => none
  | fuel + 1 =>
    (readList fuel s).bind fun (condition, rest) =>
      (expect "do" rest).bind fun rest =>
        (readList fuel rest).bind fun (body, rest) => (expect "done" rest).map fun rest => (.loop holds condition body, rest)

/-- The rest of a loop over words after its first word. -/
def readEach (fuel : Nat) (s : List Char) : Reading Command :=
  match fuel with
  | 0 => none
  | fuel + 1 =>
    let name := s.takeWhile isNameChar
    if !isName name then none
    else
      (expect "in" (s.drop name.length)).bind fun rest =>
        (readWords (rest.length + 1) rest).bind fun (words, rest) =>
          (expect "do" rest).bind fun rest =>
            (readList fuel rest).bind fun (body, rest) =>
              (expect "done" rest).map fun rest => (.each (String.ofList name) words body, rest)

end

/-- The commands of a script. -/
def parse? (s : List Char) : Option (List Command) :=
  (readList (8 * s.length + 8) s).bind fun (cs, rest) => if rest.isEmpty then some cs else none

end ReleaseGate.Shell
