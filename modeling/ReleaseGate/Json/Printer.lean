import ReleaseGate.Json.Value
import ReleaseGate.Text.Lines

/-!
# Writing JSON

A value is written on one line, or spread over lines with two blanks for each level. Strings escape the quote, the backslash and
the control characters and nothing else; an empty array or object is never spread.
-/

namespace ReleaseGate.Json

/-- How a value is laid out: on one line, or over lines at a level of nesting. -/
inductive Layout where
  | compact
  | spread (level : Nat)

namespace Layout

/-- The layout of what stands inside a value. -/
def inner : Layout → Layout
  | compact => compact
  | spread level => spread (level + 1)

/-- What stands before an item of an array, a member of an object, or the bracket that ends one. -/
def lineBreak : Layout → List Char
  | compact => []
  | spread level => '\n' :: List.replicate (2 * level) ' '

/-- What stands between the name and the value of a member. -/
def colon : Layout → List Char
  | compact => [':']
  | spread _ => [':', ' ']

end Layout

/-- A lower-case hexadecimal digit. -/
def hexDigit (n : Nat) : Char := Nat.digitChar n

/-- How a character is written inside a string. -/
def escapeChar (c : Char) : List Char :=
  match c with
  | '"' => ['\\', '"']
  | '\\' => ['\\', '\\']
  | '\x08' => ['\\', 'b']
  | '\x0c' => ['\\', 'f']
  | '\n' => ['\\', 'n']
  | '\r' => ['\\', 'r']
  | '\t' => ['\\', 't']
  | c => if c.toNat < 0x20 then ['\\', 'u', '0', '0', hexDigit (c.toNat / 16), hexDigit (c.toNat % 16)] else [c]

/-- A text as a string. -/
def printText (s : String) : List Char := '"' :: s.toList.flatMap escapeChar ++ ['"']

mutual

/-- A value in a layout. -/
def print (layout : Layout) : Json → List Char
  | null => ['n', 'u', 'l', 'l']
  | bool true => ['t', 'r', 'u', 'e']
  | bool false => ['f', 'a', 'l', 's', 'e']
  | natural n => Nat.toDigits 10 n
  | numeral text => text.toList
  | str s => printText s
  | array [] => ['[', ']']
  | array (item :: items) =>
    '[' :: layout.inner.lineBreak ++ print layout.inner item ++ printItems layout.inner items ++ layout.lineBreak ++ [']']
  | object [] => ['\x7b', '\x7d']
  | object ((name, value) :: members) =>
    '\x7b' :: layout.inner.lineBreak ++ printText name ++ layout.colon ++ print layout.inner value
      ++ printMembers layout.inner members ++ layout.lineBreak ++ ['\x7d']

/-- The items of an array after the first, each with the comma before it. -/
def printItems (layout : Layout) : List Json → List Char
  | [] => []
  | item :: items => ',' :: layout.lineBreak ++ print layout item ++ printItems layout items

/-- The members of an object after the first, each with the comma before it. -/
def printMembers (layout : Layout) : List (String × Json) → List Char
  | [] => []
  | (name, value) :: members =>
    ',' :: layout.lineBreak ++ printText name ++ layout.colon ++ print layout value ++ printMembers layout members

end

/-- A value on one line. -/
def compact (j : Json) : String := String.ofList (print .compact j)

/-- A value spread over lines. -/
def pretty (j : Json) : String := String.ofList (print (.spread 0) j)

end ReleaseGate.Json
