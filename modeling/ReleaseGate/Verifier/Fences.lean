import ReleaseGate.Text.Lines

/-!
# Code fences

A line of at least three backticks or tildes opens a code block in Markdown, and a line of at least as many of the same character,
with nothing but blanks after them, closes it. A fence may be set in by at most three bytes of white space. A block that is never
closed swallows the rest of the text.
-/

namespace ReleaseGate.Markdown

open Text

/-- The marker at the start of a fence line, and what follows it on the line. -/
structure Fence where
  marker : Char
  length : Nat
  rest : List Char
  deriving DecidableEq, Repr

/-- The size of a text in UTF-8. -/
def utf8Size (s : List Char) : Nat := s.foldr (fun c bytes => c.utf8Size + bytes) 0

/-- Whether a character can mark a fence. -/
def isMarker (c : Char) : Bool := c == '\x60' || c == '~'

/-- The widest indentation of a fence, in bytes. -/
def maxIndent : Nat := 3

/-- The shortest marker of a fence. -/
def minLength : Nat := 3

/-- The fence that a line is, if it is one. -/
def fence? (line : List Char) : Option Fence :=
  let body := trimStart line
  if utf8Size (line.takeWhile isBlank) > maxIndent then none
  else
    match body with
    | [] => none
    | c :: _ =>
      let run := body.takeWhile (· == c)
      if isMarker c && minLength ≤ run.length then some ⟨c, run.length, body.drop run.length⟩ else none

/-- Whether a fence closes the block that another opened. -/
def Fence.closes (f opening : Fence) : Bool :=
  f.marker == opening.marker && opening.length ≤ f.length && f.rest.all isBlank

/-- A block that is open: the number of the line that opened it, and the fence on it. -/
structure OpenBlock where
  line : Nat
  fence : Fence
  deriving DecidableEq, Repr

/-- The open block after a line. -/
def step (opened : Option OpenBlock) (number : Nat) (line : List Char) : Option OpenBlock :=
  match fence? line, opened with
  | none, opened => opened
  | some f, none => some ⟨number, f⟩
  | some f, some block => if f.closes block.fence then none else some block

/-- The block that is open after some lines, of which the first has the given number. -/
def openAfter (opened : Option OpenBlock) (number : Nat) : List (List Char) → Option OpenBlock
  | [] => opened
  | line :: rest => openAfter (step opened number line) (number + 1) rest

/-- What is said of a block that is never closed. -/
def OpenBlock.problem (b : OpenBlock) : String :=
  s!"code fence {String.ofList (List.replicate b.fence.length b.fence.marker)} opened on line {b.line} is never closed"

/-- What is wrong with the code blocks of a text. -/
def problems (text : List Char) : List String :=
  (openAfter none 1 (lines text)).toList.map OpenBlock.problem

end ReleaseGate.Markdown
