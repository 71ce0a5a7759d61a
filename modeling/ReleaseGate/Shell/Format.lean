import ReleaseGate.Json.Reader
import ReleaseGate.Text.Lines
import ReleaseGate.Text.Utf8

/-!
# Formatted output of scripts

The escapes that scripts write in texts, and formats with directives for their arguments. What comes of them is bytes, since an
escape can name any byte.
-/

namespace ReleaseGate.Shell

/-- The value of an octal digit. -/
def octal? (c : Char) : Option Nat := if '0' ≤ c && c ≤ '7' then some (c.toNat - '0'.toNat) else none

/-- The byte of some octal digits. -/
def octalByte (digits : List Char) : UInt8 := (digits.foldl (fun n c => n * 8 + (octal? c).getD 0) 0).toUInt8

/-- The octal digits at the beginning of a text, at most `width`. -/
def octalDigits (width : Nat) (s : List Char) : List Char := (s.take width).takeWhile fun c => (octal? c).isSome

/-- What an escape after a backslash stands for, and the number of characters it has. `none` in place of the bytes ends all
output. -/
def escapeBytes (leadingZero : Bool) (s : List Char) : Option (List UInt8) × Nat :=
  match s with
  | 'a' :: _ => (some [7], 1)
  | 'b' :: _ => (some [8], 1)
  | 'c' :: _ => (none, 1)
  | 'f' :: _ => (some [12], 1)
  | 'n' :: _ => (some [10], 1)
  | 'r' :: _ => (some [13], 1)
  | 't' :: _ => (some [9], 1)
  | 'v' :: _ => (some [11], 1)
  | '\\' :: _ => (some [92], 1)
  | s =>
    let digits :=
      if leadingZero then if s.head? == some '0' then s.take 1 ++ octalDigits 3 (s.drop 1) else [] else octalDigits 3 s
    if digits.isEmpty then (some [92], 0) else (some [octalByte digits], digits.length)

/-- A text with its escapes put into effect; `skip` characters belong to the escape read last. The flag says whether output goes
on. -/
def unescape (leadingZero : Bool) (skip : Nat) : List Char → List UInt8 × Bool
  | [] => ([], true)
  | c :: rest =>
    match skip with
    | k + 1 => unescape leadingZero k rest
    | 0 =>
      if c == '\\' then
        match escapeBytes leadingZero rest with
        | (some bytes, width) =>
          let (more, goesOn) := unescape leadingZero width rest
          (bytes ++ more, goesOn)
        | (none, _) => ([], false)
      else
        let (more, goesOn) := unescape leadingZero 0 rest
        (Text.Utf8.encode c.toString ++ more, goesOn)

/-- The integer that an argument spells. -/
def integer? (s : List Char) : Option Int :=
  let (negative, digits) :=
    match Text.trimStart s with
    | '-' :: rest => (true, rest)
    | '+' :: rest => (false, rest)
    | s => (false, s)
  let value (base : Nat) (digits : List Char) : Option Nat :=
    if digits.isEmpty then none
    else digits.foldlM (fun n c => (Json.hexValue? c).bind fun d => if d < base then some (n * base + d) else none) 0
  let n :=
    match digits with
    | '0' :: 'x' :: digits => value 16 digits
    | '0' :: d :: digits => value 8 (d :: digits)
    | digits => value 10 digits
  n.map fun n => if negative then -(n : Int) else n

/-- A directive of a format: its flags, width, precision and letter. -/
structure Directive where
  flags : List Char
  width : Nat
  precision : Option Nat
  letter : Char

/-- The number that some digits spell. -/
def digitsNumber (digits : List Char) : Nat := digits.foldl (fun n d => n * 10 + (d.toNat - '0'.toNat)) 0

/-- The directive after a percent sign, and the number of characters it has. -/
def directive? (s : List Char) : Option (Directive × Nat) :=
  let flags := s.takeWhile fun c => ['-', '+', ' ', '#', '0'].contains c
  let rest := s.drop flags.length
  let width := rest.takeWhile Char.isDigit
  let rest := rest.drop width.length
  let (precision, rest) :=
    match rest with
    | '.' :: rest => (some (rest.takeWhile Char.isDigit), rest.dropWhile Char.isDigit)
    | rest => (none, rest)
  match rest with
  | letter :: after =>
    some (⟨flags, digitsNumber width, precision.map digitsNumber, letter⟩, s.length - after.length)
  | [] => none

/-- A text filled up to the width of a directive. -/
def fill (d : Directive) (s : List Char) : List Char :=
  let missing := d.width - s.length
  if d.flags.contains '-' then s ++ List.replicate missing ' '
  else if d.flags.contains '0' && ['d', 'i', 'u', 'x', 'X', 'o'].contains d.letter then
    match s with
    | '-' :: digits => '-' :: List.replicate missing '0' ++ digits
    | digits => List.replicate missing '0' ++ digits
  else List.replicate missing ' ' ++ s

/-- An argument in the form that a directive asks for. -/
def formatted (d : Directive) (argument : List Char) : List UInt8 × Bool :=
  let text (s : List Char) : List UInt8 × Bool := (Text.Utf8.encode (String.ofList (fill d s)), true)
  let number : Int := (integer? argument).getD 0
  let inBase (base : Nat) : List Char := Nat.toDigits base number.toNat
  match d.letter with
  | 's' => text (match d.precision with | some n => argument.take n | none => argument)
  | 'c' => text (argument.take 1)
  | 'b' => unescape true 0 argument
  | 'd' => text (toString number).toList
  | 'i' => text (toString number).toList
  | 'u' => text (toString number).toList
  | 'x' => text (inBase 16)
  | 'X' => text ((inBase 16).map Char.toUpper)
  | 'o' => text (inBase 8)
  | _ => text argument

/-- A format with its directives filled in from arguments, and the arguments that are left; `skip` characters belong to what was
read last. The flag says whether output goes on. -/
def formatOnce (skip : Nat) (arguments : List String) : List Char → List UInt8 × List String × Bool
  | [] => ([], arguments, true)
  | c :: rest =>
    match skip with
    | k + 1 => formatOnce k arguments rest
    | 0 =>
      let go (bytes : List UInt8) (goesOn : Bool) (width : Nat) (left : List String) : List UInt8 × List String × Bool :=
        if goesOn then
          let (more, left, goesOn) := formatOnce width left rest
          (bytes ++ more, left, goesOn)
        else (bytes, left, false)
      if c == '\\' then
        match escapeBytes false rest with
        | (some bytes, width) => go bytes true width arguments
        | (none, _) => ([], arguments, false)
      else if c == '%' then
        match directive? rest with
        | some (d, width) =>
          if d.letter == '%' then go [37] true width arguments
          else
            let (bytes, goesOn) := formatted d (arguments.headD "").toList
            go bytes goesOn width (arguments.drop 1)
        | none => go [37] true 0 arguments
      else go (Text.Utf8.encode c.toString) true 0 arguments

/-- A format used again as long as it takes arguments and some are left. -/
def formatAll : Nat → List Char → List String → List UInt8
  | 0, _, _ => []
  | fuel + 1, format, arguments =>
    let (bytes, left, goesOn) := formatOnce 0 arguments format
    if goesOn && !left.isEmpty && left.length < arguments.length then bytes ++ formatAll fuel format left else bytes

/-- The output of a format with arguments. -/
def format (text : String) (arguments : List String) : List UInt8 := formatAll (arguments.length + 1) text.toList arguments

end ReleaseGate.Shell
