import ReleaseGate.Text.Lines
import ReleaseGate.Text.Quoted
import ReleaseGate.Version.Grammar
import ReleaseGate.Version.Parts

/-!
# Versions

A `Version` is a text in the grammar of public versions, kept as it was spelled. `canonical` is the spelling that packagers put
into file names, so two versions with one canonical form name the same release. `isPrerelease` looks for the label of a
pre-release or development release in the spelling.
-/

namespace ReleaseGate

/-- A spelling of a public version. Every build carries exactly one. -/
structure Version where
  text : String
  accepted : Version.publicVersion.accepts text.toList = true
  deriving DecidableEq

namespace Version

/-- Why a text is no version. -/
inductive ParseError where
  /-- Nothing is left when the white space around the text is removed. -/
  | empty
  /-- The text, without the white space around it, is not in the grammar. -/
  | notPublic (text : String)
  deriving DecidableEq, Repr

/-- The wording of a reason why a text is no version. -/
def ParseError.message : ParseError → String
  | .empty => "version string is empty"
  | .notPublic text => s!"{Text.quoted text} is not a valid public version"

/-- The version that a text spells, white space around it aside. -/
def parse (raw : String) : Except ParseError Version :=
  let text := Text.trimmed raw
  if text.isEmpty then .error .empty
  else if h : publicVersion.accepts text.toList = true then .ok ⟨text, h⟩
  else .error (.notPublic text)

/-- A version is spelled by the texts that are its own text with white space around it, and by no other. -/
theorem parse_eq_ok_iff (raw : String) (v : Version) : parse raw = .ok v ↔ Text.trimmed raw = v.text := by
  have nothing : publicVersion.accepts "".toList = false := by decide +kernel
  unfold parse
  constructor
  · intro h
    dsimp only at h
    split at h
    · cases h
    · split at h
      · exact congrArg text (Except.ok.inj h)
      · cases h
  · intro same
    have some : ¬v.text.isEmpty = true := by
      intro empty
      have refused := v.accepted
      rw [String.isEmpty_iff.mp empty, nothing] at refused
      cases refused
    dsimp only
    rw [same, if_neg some, dif_pos v.accepted]

/-- The canonical spelling of a version. -/
def canonical (v : Version) : String :=
  match Parts.read? v.text.toList with
  | some parts => String.ofList parts.print
  | none => String.ofList (Text.lowerAscii (v.text.toList.dropWhile fun c => c == 'v' || c == 'V'))

/-- The labels by which a spelling is known to be a pre-release or a development release. -/
def prereleaseLabels : List String := ["dev", "a", "b", "rc", "alpha", "beta", "pre", "c"]

/-- Whether a character separates the labels of a spelling. -/
def isLabelEnd (c : Char) : Bool := c.isDigit || Parts.isSeparator c

/-- Whether a version is spelled with the label of a pre-release or a development release. -/
def isPrerelease (v : Version) : Bool :=
  let spelled := (Text.lowerAscii v.text.toList).dropWhile (· == 'v')
  (Text.splitAtEach isLabelEnd spelled).any fun piece => prereleaseLabels.any fun label => label.toList == piece

instance : ToString Version := ⟨Version.text⟩

end Version

end ReleaseGate
