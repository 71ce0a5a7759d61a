import ReleaseGate.Proofs.Artifact.ChecksumFile
import ReleaseGate.Proofs.Artifact.Loading
import ReleaseGate.Proofs.Naming.Normalization
import ReleaseGate.Proofs.Naming.Wheels

/-!
# Conventional file names

Packagers name a source distribution by the project, the version and the extension of an archive, and a wheel by the project, the
version and three tags. The project may be spelled in any way that normalizes alike. Such a name carries the version and belongs to
the project; it can stand in a directory and on a line of a checksum file, and it is not the name of a bookkeeping file.
-/

namespace ReleaseGate.Naming

open Text

/-- Whether a character may stand in a tag of a wheel. -/
def isTagCharacter (c : Char) : Bool := c.isAlphanum || c == '.' || c == '_'

/-- Whether a character may stand in a spelling of a project. -/
def isSpellingCharacter (c : Char) : Bool := isTagCharacter c || c == '-'

/-- The extensions of source distributions. -/
def archiveExtensions : List String := [".tar.gz", ".tar.bz2", ".tar.xz", ".zip"]

/-- What follows the version in the name of a file. -/
inductive Ending : List Char → Prop where
  | archive {extension : String} (known : extension ∈ archiveExtensions) : Ending extension.toList
  | wheel {python abi platform : List Char} (tags : ∀ c ∈ python ++ abi ++ platform, isTagCharacter c = true) :
      Ending ('-' :: (python ++ '-' :: (abi ++ '-' :: (platform ++ FileTags.wheelEnding))))

/-- A conventional name of a file of a project, for a version. -/
def IsConventional (project : List Char) (v : Version) (fileName : List Char) : Prop :=
  ∃ spelling ending, fileName = spelling ++ '-' :: (v.canonical.toList ++ ending) ∧
    (∀ c ∈ spelling, isSpellingCharacter c = true) ∧ normalizeName spelling = normalizeName project ∧ Ending ending

/-! ## Version and project -/

theorem Ending.endsComponent {ending : List Char} (h : Ending ending) : endsComponent (lowerAscii ending) = true := by
  cases h with
  | archive known =>
    have all : ∀ e ∈ archiveExtensions, Naming.endsComponent (lowerAscii e.toList) = true := by decide
    exact all _ known
  | wheel tags => exact endsComponent_hyphen _

variable {project fileName : List Char} {v : Version}

theorem IsConventional.namesProject (h : IsConventional project v fileName) :
    ∃ spelling, normalizeName spelling = normalizeName project ∧ NamesProject v spelling fileName := by
  obtain ⟨spelling, ending, rfl, -, same, known⟩ := h
  have begins : BeginsWithVersion v (v.canonical.toList ++ ending) :=
    ⟨v.canonical.toList, ending, rfl, v.lowerAscii_canonical, known.endsComponent⟩
  exact ⟨spelling, same, '-', v.canonical.toList ++ ending, rfl, by decide, begins⟩

theorem IsConventional.carriesVersion (h : IsConventional project v fileName) :
    carriesVersion fileName v.canonical.toList = true := by
  obtain ⟨spelling, -, names⟩ := h.namesProject
  exact carriesVersion_iff_namesProject.mpr (.inr ⟨spelling, names⟩)

theorem IsConventional.belongs (h : IsConventional project v fileName) : normalizeName project <+: normalizeName fileName := by
  obtain ⟨spelling, ending, rfl, -, same, -⟩ := h
  rw [← same]
  exact normalizeName_prefix spelling _

/-! ## Characters -/

/-- Whether a character may stand in a conventional name. -/
def isFileCharacter (c : Char) : Bool := isSpellingCharacter c || c == '!'

theorem isFileCharacter_of_isCanonical {c : Char} (h : Parts.isCanonical c = true) : isFileCharacter c = true := by
  simp only [Parts.isCanonical, Bool.or_eq_true] at h
  rcases h with digit | listed
  · simp [isFileCharacter, isSpellingCharacter, isTagCharacter, Char.isAlphanum, digit]
  · have letters : ['.', '!', 'a', 'b', 'r', 'c', 'p', 'o', 's', 't', 'd', 'e', 'v'].all isFileCharacter = true := by decide
    exact List.all_eq_true.mp letters c (List.contains_iff_mem.mp listed)

theorem Ending.isFileCharacter {ending : List Char} (h : Ending ending) : ∀ c ∈ ending, isFileCharacter c = true := by
  have tag : ∀ c, isTagCharacter c = true → Naming.isFileCharacter c = true := by
    intro c hc
    simp [Naming.isFileCharacter, isSpellingCharacter, hc]
  cases h with
  | archive known =>
    have all : archiveExtensions.all (fun e => e.toList.all Naming.isFileCharacter) = true := by decide
    exact List.all_eq_true.mp (List.all_eq_true.mp all _ known)
  | wheel tags =>
    have wheelEnding : ∀ c ∈ FileTags.wheelEnding, Naming.isFileCharacter c = true := List.all_eq_true.mp (by decide)
    have hyphen : Naming.isFileCharacter '-' = true := by decide
    simp only [List.mem_append, or_imp, forall_and] at tags
    simp only [List.forall_mem_cons, List.forall_mem_append]
    obtain ⟨⟨python, abi⟩, platform⟩ := tags
    exact ⟨hyphen, fun c hc => tag c (python c hc), hyphen, fun c hc => tag c (abi c hc), hyphen,
      fun c hc => tag c (platform c hc), wheelEnding⟩

/-- A conventional name holds nothing but letters and digits of ASCII and a few marks. -/
theorem IsConventional.isFileCharacter (h : IsConventional project v fileName) : ∀ c ∈ fileName, isFileCharacter c = true := by
  obtain ⟨spelling, ending, rfl, plain, -, known⟩ := h
  have hyphen : Naming.isFileCharacter '-' = true := by decide
  simp only [List.forall_mem_append, List.forall_mem_cons]
  refine ⟨fun c hc => ?_, hyphen, fun c hc => ?_, known.isFileCharacter⟩
  · simp [Naming.isFileCharacter, plain c hc]
  · exact isFileCharacter_of_isCanonical (Version.isCanonical_of_mem_canonical hc)

theorem IsConventional.mem_hyphen (h : IsConventional project v fileName) : '-' ∈ fileName := by
  obtain ⟨spelling, ending, rfl, -, -, -⟩ := h
  simp

theorem isBlank_of_isFileCharacter {c : Char} (h : isFileCharacter c = true) : isBlank c = false := by
  simp only [isFileCharacter, isSpellingCharacter, isTagCharacter, Char.isAlphanum, Bool.or_eq_true, beq_iff_eq] at h
  rcases h with ((((letter | digit) | rfl) | rfl) | rfl) | rfl
  · have folds : foldsToLetter c = true := by simp [foldsToLetter, letter]
    exact isBlank_of_foldsToLetter folds
  · exact isBlank_of_isDigit digit
  all_goals decide

/-- What is no character of file names stands in no conventional name. -/
theorem IsConventional.not_mem (h : IsConventional project v fileName) {c : Char} (other : Naming.isFileCharacter c = false) :
    c ∉ fileName := by
  intro inside
  rw [h.isFileCharacter c inside] at other
  cases other

/-! ## Directories and checksum files -/

variable {name : String}

/-- A conventional name can stand in a directory. -/
theorem IsConventional.isName (h : IsConventional project v name.toList) : Path.IsName name := by
  have hyphen := h.mem_hyphen
  refine ⟨?_, ?_, ?_, h.not_mem (by decide), h.not_mem (by decide)⟩
  all_goals
    rintro rfl
    revert hyphen
    decide

/-- A conventional name is not that of a bookkeeping file. -/
theorem IsConventional.isBookkeeping (h : IsConventional project v name.toList) : ArtifactSet.isBookkeeping name = false := by
  have hyphen := h.mem_hyphen
  have other : ∀ known : String, '-' ∉ known.toList → (name == known) = false := by
    intro known plain
    apply beq_false_of_ne
    rintro rfl
    exact plain hyphen
  unfold ArtifactSet.isBookkeeping
  rw [other Checksums.fileName (by decide), other Verifier.descriptorFileName (by decide)]
  rfl

/-- A file of a conventional name can be recorded in a checksum file. -/
theorem IsConventional.isRecordable (h : IsConventional project v name.toList) (dir : Path) (bytes : List UInt8) :
    Checksums.IsRecordable (ArtifactSet.artifactAt dir name bytes) := by
  have solid : ∀ c ∈ name.toList, isBlank c = false := fun c hc => isBlank_of_isFileCharacter (h.isFileCharacter c hc)
  have named : name.toList ≠ [] := List.ne_nil_of_mem h.mem_hyphen
  refine Checksums.isRecordable_of_hexDigest rfl named (h.not_mem (by decide)) (trim_eq_self_of_solid solid) ?_
  intro star
  exact h.not_mem (by decide) (List.mem_of_mem_head? star)

end ReleaseGate.Naming
