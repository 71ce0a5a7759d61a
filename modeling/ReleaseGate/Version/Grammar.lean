import ReleaseGate.Text.LetterCase
import ReleaseGate.Text.Pattern

/-!
# The grammar of public versions

A public version is an optional `v`, an optional epoch, a dotted release, and an optional pre-release, post-release and
development segment in this order. Local segments, which begin with a plus sign, are no part of it: registries refuse them.
-/

namespace ReleaseGate.Version

open Text Pattern

/-- A word whose letters are compared by simple case folding. -/
def word (w : String) : Pattern := sequence (w.toList.map fun l => one (foldsTo l))

/-- The choice between several words. -/
def oneOfWords (ws : List String) : Pattern := choice (ws.map word)

/-- One or more digits. -/
def digits : Pattern := oneOrMore digit

/-- An optional separator of a segment. -/
def separator : Pattern := optional (oneOf ['-', '_', '.'])

/-- A segment that begins with one of some labels: separators may stand around the label, and the number may be left out. -/
def labelled (labels : List String) : Pattern :=
  sequence [separator, oneOfWords labels, separator, many digit]

/-- The spellings of public versions. -/
def publicVersion : Pattern :=
  sequence
    [optional (word "v"),
     optional (seq digits (char '!')),
     digits,
     many (seq (char '.') digits),
     optional (labelled ["a", "b", "c", "rc", "alpha", "beta", "pre", "preview"]),
     optional (alt (seq (char '-') digits) (labelled ["post", "rev", "r"])),
     optional (labelled ["dev"])]

end ReleaseGate.Version
