import ReleaseGate.Text.Lines

/-!
# Titles and literals of reStructuredText

Two faults break the rendering of a long description: a title whose underline is shorter than the title, and a paragraph in
which an inline literal is opened and not closed. Set-in lines and paragraphs are quoted text and are not looked at.
-/

namespace ReleaseGate.Restructured

open Text

/-- The characters of which underlines are made. -/
def adornments : List Char := ['=', '-', '~', '^', '"', '\'', '\x60', '*', '+', '#', ':', '.', '_']

/-- Whether a line is an underline: two or more of one adornment character. -/
def isAdornment : List Char → Bool
  | [] => false
  | c :: rest => adornments.contains c && !rest.isEmpty && rest.all (· == c)

/-- Whether the second of two lines is an underline of the first, and too short for it. -/
def isShortUnderline (title underline : List Char) : Bool :=
  let title := trimEnd title
  let underline := trimEnd underline
  !(title.all isBlank || title.head? == some ' ' || isAdornment title)
    && isAdornment underline && underline.length < title.length

/-- What is said of the titles of some lines, of which the first has the given number. -/
def titleProblems (number : Nat) : List (List Char) → List String
  | title :: underline :: rest =>
    let below := titleProblems (number + 1) (underline :: rest)
    if isShortUnderline title underline then s!"title underline too short on line {number + 1}" :: below else below
  | _ => []

/-- The paragraphs of a text, which two newlines separate. -/
def paragraphs : List Char → List (List Char)
  | [] => [[]]
  | '\n' :: '\n' :: rest => [] :: paragraphs rest
  | c :: rest =>
    match paragraphs rest with
    | [] => [[c]]
    | p :: more => (c :: p) :: more

/-- The number of literal marks in a text, read from left to right without overlaps. -/
def literalMarks : List Char → Nat
  | '\x60' :: '\x60' :: rest => literalMarks rest + 1
  | _ :: rest => literalMarks rest
  | [] => 0

/-- Whether a paragraph is set in. -/
def isQuoted (paragraph : List Char) : Bool := paragraph.head? == some ' ' || paragraph.head? == some '\t'

/-- What is said of the literals of some paragraphs, of which the first has the given number. -/
def literalProblems (number : Nat) : List (List Char) → List String
  | [] => []
  | p :: rest =>
    let below := literalProblems (number + 1) rest
    if !isQuoted p && literalMarks p % 2 != 0 then
      s!"unterminated inline literal in paragraph {number}" :: below
    else below

/-- What is wrong with the titles and the literals of a text. -/
def problems (text : List Char) : List String :=
  titleProblems 1 (lines text) ++ literalProblems 1 (paragraphs text)

end ReleaseGate.Restructured
