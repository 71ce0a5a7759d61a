import ReleaseGate.Artifact
import ReleaseGate.Text.LetterCase

/-!
# The checksum file

The checksum file has a line for each artifact: the digest, two blanks, and the file name. Reading takes any blank after the
digest, drops the stars by which a binary file is marked, and keeps the lines that record nothing, so that the verifier can
report them. A name has the digest that was recorded for it last, and the names come in increasing order, each once.
-/

namespace ReleaseGate.Checksums

/-- The name of the checksum file. -/
def fileName : String := "SHA256SUMS"

/-- The entries with the digest for one name replaced or added, in increasing order of the names. -/
def insertEntry (name digest : String) : List (String × String) → List (String × String)
  | [] => [(name, digest)]
  | (n, d) :: rest =>
    if name == n then (name, digest) :: rest
    else if name < n then (name, digest) :: (n, d) :: rest
    else (n, d) :: insertEntry name digest rest

/-- The digest that is recorded for a name. -/
def digest? (c : Checksums) (name : String) : Option String := c.entries.lookup name

/-- The names with a digest, in increasing order. -/
def names (c : Checksums) : List String := c.entries.map (·.1)

/-- The digest and the file name that a line records. -/
def entry? (line : List Char) : Option (String × String) :=
  match Text.cutAtFirst Text.isBlank line with
  | some (digest, _, name) =>
    let name := Text.trim name
    if name.isEmpty then none
    else some (String.ofList (name.dropWhile (· == '*')), String.ofList (Text.lowerAscii digest))
  | none => none

/-- The record with one more line read. Blank lines record nothing and are not kept. -/
def addLine (c : Checksums) (line : List Char) : Checksums :=
  let line := Text.trim line
  if line.isEmpty then c
  else
    match entry? line with
    | some (name, digest) => { c with entries := insertEntry name digest c.entries }
    | none => { c with malformed := c.malformed ++ [String.ofList line] }

/-- What the text of a checksum file records. -/
def parse (text : String) : Checksums := (Text.lines text.toList).foldl addLine {}

/-- The line for an artifact. -/
def printLine (a : Artifact) : List Char := a.sha256.toList ++ ' ' :: ' ' :: a.fileName.toList ++ ['\n']

/-- The text of the checksum file for some artifacts. -/
def print (artifacts : List Artifact) : String := String.ofList (artifacts.flatMap printLine)

/-- A name has the digest that was recorded for it last. -/
theorem lookup_insertEntry (name digest n : String) (entries : List (String × String)) :
    (insertEntry name digest entries).lookup n = if n = name then some digest else entries.lookup n := by
  induction entries with
  | nil => grind [insertEntry]
  | cons head rest ih => grind [insertEntry]

/-- Each name comes once, and the names increase. -/
def IsSorted (entries : List (String × String)) : Prop := entries.Pairwise fun a b => a.1 < b.1

theorem lt_of_not_lt {m n : String} (different : m ≠ n) (not_before : ¬m < n) : n < m := by
  apply Classical.byContradiction
  intro not_after
  exact different (String.le_antisymm (String.not_lt.mp not_after) (String.not_lt.mp not_before))

theorem mem_insertEntry {name digest : String} {e : String × String} {entries : List (String × String)}
    (h : e ∈ insertEntry name digest entries) : e = (name, digest) ∨ e ∈ entries := by
  induction entries with
  | nil => simpa [insertEntry] using h
  | cons head rest ih => grind [insertEntry]

/-- Recording a digest keeps the entries in order. -/
theorem insertEntry_isSorted (name digest : String) {entries : List (String × String)} (h : IsSorted entries) :
    IsSorted (insertEntry name digest entries) := by
  induction entries with
  | nil => simp [insertEntry, IsSorted]
  | cons head rest ih =>
    obtain ⟨n, d⟩ := head
    obtain ⟨first, later⟩ := List.pairwise_cons.mp h
    rw [insertEntry]
    split
    next same =>
      have e := eq_of_beq same
      subst e
      exact List.pairwise_cons.mpr ⟨first, later⟩
    next different =>
      split
      next before =>
        refine List.pairwise_cons.mpr ⟨fun e he => ?_, h⟩
        rcases List.mem_cons.mp he with rfl | he
        · exact before
        · exact String.lt_trans before (first e he)
      next not_before =>
        refine List.pairwise_cons.mpr ⟨fun e he => ?_, ih later⟩
        rcases mem_insertEntry he with rfl | he
        · exact lt_of_not_lt (by simpa using different) not_before
        · exact first e he

/-- What a text records is in order, whatever its lines are. -/
theorem parse_isSorted (text : String) : IsSorted (parse text).entries := by
  have step : ∀ (lines : List (List Char)) (c : Checksums), IsSorted c.entries → IsSorted (lines.foldl addLine c).entries := by
    intro lines
    induction lines with
    | nil => exact fun _ h => h
    | cons line rest ih =>
      intro c h
      refine ih _ ?_
      simp only [addLine]
      split
      · exact h
      · split
        · exact insertEntry_isSorted _ _ h
        · exact h
  exact step _ _ List.Pairwise.nil

end ReleaseGate.Checksums
