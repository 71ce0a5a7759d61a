import ReleaseGate.Text.LetterCase
import ReleaseGate.Text.Lines
import ReleaseGate.Text.Pattern

/-!
# Names of projects and files

Packaging tools spell one project name in many ways. `normalizeName` gives the spelling of wheel file names, and two names are
the same when it makes them equal. `carriesVersion` looks for a version in a file name as a component of its own: `1.0` is
neither in `widget-1.0.1.tar.gz` nor in `widget-1.0.dev3.tar.gz`.
-/

namespace ReleaseGate.Naming

open Text

/-- Whether a character separates the words of a project name. -/
def isWordSeparator (c : Char) : Bool := c == '-' || c == '_' || c == '.'

theorem isWordSeparator_iff (c : Char) : isWordSeparator c = true ↔ c = '-' ∨ c = '_' ∨ c = '.' := by
  simp [isWordSeparator, or_assoc]

/-- What separates words is no letter. -/
theorem isAlpha_of_isWordSeparator {c : Char} (h : isWordSeparator c = true) : c.isAlpha = false := by
  rcases (isWordSeparator_iff c).mp h with rfl | rfl | rfl
  all_goals rfl

/-- The rest of a name, normalized; `afterSeparator` says whether a separator was just read, so that a run of them counts once. -/
def normalizeFrom (afterSeparator : Bool) : List Char → List Char
  | [] => []
  | c :: rest =>
    if isWordSeparator c then
      if afterSeparator then normalizeFrom true rest else '_' :: normalizeFrom true rest
    else lowerChar c ++ normalizeFrom false rest

/-- A project name in lower case, with each run of separators turned into one underscore. -/
def normalizeName (name : List Char) : List Char := normalizeFrom false name

/-- The extensions of distribution files, which may stand right after the version. -/
def extensions : List String := [".tar.gz", ".tar.bz2", ".tar.xz", ".zip", ".whl"]

/-- Whether a component may begin after a character, or at the start of a file name. -/
def startsComponent : Option Char → Bool
  | none => true
  | some c => c == '-' || c == '_'

/-- Whether a component may end before the rest of a file name. -/
def endsComponent (rest : List Char) : Bool :=
  rest.isEmpty || rest.head? == some '-' || extensions.any fun e => e.toList == rest

/-- Whether a version is a component of a file name. -/
def carriesVersion (fileName version : List Char) : Bool :=
  !version.isEmpty
    && (occurrences (lowerAscii version) (lowerAscii fileName)).any fun (before, after) =>
      startsComponent before && endsComponent after

/-- Whether a character may begin and end a project name. -/
def isNameEnd (c : Char) : Bool := foldsToLetter c || c.isDigit

/-- Whether a character may stand in a project name. -/
def isNameCharacter (c : Char) : Bool := isNameEnd c || isWordSeparator c

/-- The names of projects: letters, digits and separators, with a letter or a digit at both ends. -/
def projectName : Pattern :=
  .alt (.one isNameEnd) (.sequence [.one isNameEnd, .many (.one isNameCharacter), .one isNameEnd])

end ReleaseGate.Naming
