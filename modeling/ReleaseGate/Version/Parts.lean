import ReleaseGate.Text.LetterCase

/-!
# The parts of a version

A public version names an epoch, a release, and at most one pre-release, post-release and development segment. `Parts.read?` takes
a spelling apart, whatever its separators, label spellings, letter case and leading zeros; `Parts.print` writes the one canonical
spelling. An epoch that is absent is epoch 0, and a label without a number has number 0.
-/

namespace ReleaseGate

/-- The classes of pre-releases, in the order in which they precede a release. -/
inductive PreClass where
  | alpha
  | beta
  | candidate
  deriving DecidableEq, Repr, Inhabited

/-- The components of a version, as numbers of any size. -/
structure Parts where
  epoch : Nat := 0
  /-- The first number of the release. -/
  major : Nat
  /-- The other numbers of the release, as many as are written. -/
  minors : List Nat := []
  pre : Option (PreClass × Nat) := none
  post : Option Nat := none
  dev : Option Nat := none
  deriving DecidableEq, Repr

namespace Parts

/-- The characters that may stand before a label and between a label and its number. -/
def isSeparator (c : Char) : Bool := c == '-' || c == '_' || c == '.'

/-- The value of a decimal digit. -/
def digitValue (c : Char) : Nat := c.toNat - '0'.toNat

/-- Reads on in a number whose digits so far are worth `n`. -/
def numberFrom (n : Nat) : List Char → Nat × List Char
  | [] => (n, [])
  | c :: rest => if c.isDigit then numberFrom (n * 10 + digitValue c) rest else (n, c :: rest)

/-- The number at the start of a text, if a digit stands there, and what follows it. -/
def readNumber? : List Char → Option (Nat × List Char)
  | [] => none
  | c :: rest => if c.isDigit then some (numberFrom (digitValue c) rest) else none

/-- Reads on in a dotted release whose current number is worth `n` so far. A dot that no digit follows ends the release. -/
def releaseFrom (n : Nat) : List Char → (Nat × List Nat) × List Char
  | [] => ((n, []), [])
  | c :: rest =>
    if c.isDigit then releaseFrom (n * 10 + digitValue c) rest
    else if c == '.' then
      match rest with
      | d :: more =>
        if d.isDigit then
          let ((m, ms), after) := releaseFrom (digitValue d) more
          ((n, m :: ms), after)
        else ((n, []), c :: d :: more)
      | [] => ((n, []), [c])
    else ((n, []), c :: rest)

/-- The dotted release at the start of a text and what follows it. -/
def readRelease? : List Char → Option ((Nat × List Nat) × List Char)
  | [] => none
  | c :: rest => if c.isDigit then some (releaseFrom (digitValue c) rest) else none

/-- The epoch at the start of a text, with what follows its mark. A text that begins with no epoch is left as it is. -/
def readEpoch (s : List Char) : Nat × List Char :=
  match readNumber? s with
  | some (n, '!' :: rest) => (n, rest)
  | _ => (0, s)

/-- A text without the separator at its start, if it has one. -/
def dropSeparator : List Char → List Char
  | [] => []
  | c :: rest => if isSeparator c then rest else c :: rest

/-- What follows a label, whose letters are compared by simple case folding. -/
def afterLabel? : List Char → List Char → Option (List Char)
  | [], s => some s
  | _ :: _, [] => none
  | l :: label, c :: s => if Text.foldsTo l c then afterLabel? label s else none

/-- The number of a segment, read after its label, and what follows. -/
def readLabelNumber (s : List Char) : Nat × List Char :=
  let s := dropSeparator s
  match readNumber? s with
  | some r => r
  | none => (0, s)

/-- The segment at the start of a text that begins with a label of a table: what the table says of the label, the number of the
segment, and what follows it. -/
def readSegment? {α : Type} (table : List (String × α)) (s : List Char) : Option ((α × Nat) × List Char) :=
  let s := dropSeparator s
  table.findSome? fun (label, meaning) =>
    (afterLabel? label.toList s).map fun rest =>
      let (n, rest) := readLabelNumber rest
      ((meaning, n), rest)

/-- The labels of pre-releases; a label stands before the labels it begins with. -/
def preLabels : List (String × PreClass) :=
  [("alpha", .alpha), ("beta", .beta), ("preview", .candidate), ("pre", .candidate), ("rc", .candidate), ("a", .alpha),
   ("b", .beta), ("c", .candidate)]

/-- The labels of post-releases. -/
def postLabels : List (String × Unit) := [("post", ()), ("rev", ()), ("r", ())]

/-- The label of development releases. -/
def devLabels : List (String × Unit) := [("dev", ())]

/-- The pre-release segment at the start of a text, if any, and what follows it. -/
def readPre (s : List Char) : Option (PreClass × Nat) × List Char :=
  match readSegment? preLabels s with
  | some (p, rest) => (some p, rest)
  | none => (none, s)

/-- The post-release segment at the start of a text, if any, and what follows it: a hyphen and a number, or a label. -/
def readPost (s : List Char) : Option Nat × List Char :=
  let labelled :=
    match readSegment? postLabels s with
    | some ((_, n), rest) => (some n, rest)
    | none => (none, s)
  match s with
  | '-' :: rest =>
    match readNumber? rest with
    | some (n, rest) => (some n, rest)
    | none => labelled
  | _ => labelled

/-- The development segment at the start of a text, if any, and what follows it. -/
def readDev (s : List Char) : Option Nat × List Char :=
  match readSegment? devLabels s with
  | some ((_, n), rest) => (some n, rest)
  | none => (none, s)

/-- A text without the letter `v` that may stand before a version. -/
def dropV : List Char → List Char
  | [] => []
  | c :: rest => if Text.foldsTo 'v' c then rest else c :: rest

/-- The parts of a spelling of a version. A text that is no spelling of one has none. -/
def read? (s : List Char) : Option Parts :=
  let (epoch, s) := readEpoch (dropV s)
  (readRelease? s).bind fun ((major, minors), s) =>
    let (pre, s) := readPre s
    let (post, s) := readPost s
    let (dev, s) := readDev s
    if s.isEmpty then some { epoch, major, minors, pre, post, dev } else none

/-- The canonical label of a pre-release. -/
def preLabel : PreClass → List Char
  | .alpha => ['a']
  | .beta => ['b']
  | .candidate => ['r', 'c']

/-- A number in decimal, without leading zeros. -/
def decimal (n : Nat) : List Char := Nat.toDigits 10 n

/-- A number of the release after the first, with its dot. -/
def printMinor (n : Nat) : List Char := '.' :: decimal n

/-- The canonical spelling of the parts of a version. -/
def print (p : Parts) : List Char :=
  (if p.epoch == 0 then [] else decimal p.epoch ++ ['!'])
    ++ decimal p.major
    ++ p.minors.flatMap printMinor
    ++ (match p.pre with
        | some (cls, n) => preLabel cls ++ decimal n
        | none => [])
    ++ (match p.post with
        | some n => ['.', 'p', 'o', 's', 't'] ++ decimal n
        | none => [])
    ++ (match p.dev with
        | some n => ['.', 'd', 'e', 'v'] ++ decimal n
        | none => [])

end Parts

end ReleaseGate
