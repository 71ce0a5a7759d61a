import ReleaseGate.Proofs.Naming.Conventional
import ReleaseGate.Proofs.Version.NormalForm

/-!
# Versions in the names of source distributions

The name of a source distribution has its project, a hyphen, its version and the extension of an archive. When the project is
spelled with letters and separators only, one version is found in the name and no other (`Archive.carriesVersion_archive_iff`): a
version begins with a digit, so it is none of the project; it holds no separator, so it begins where the version of the archive
does; and no extension can stand for the end of a version, nor for that of another extension.
-/

namespace ReleaseGate.Naming

open Text

/-! ## What stands before a version -/

/-- A version stands in a text without digits before one without separators only where the second begins. -/
theorem standsIn_after {version front rest : List Char} {d : Char} {more : List Char} (begins : version = d :: more)
    (digit : d.isDigit = true) (noDigit : ∀ c ∈ front, c.isDigit = false)
    (noSeparator : ∀ c ∈ rest, startsComponent (some c) = false) (stands : StandsIn version (front ++ rest)) :
    ∃ after, rest = version ++ after ∧ endsComponent after = true := by
  obtain ⟨p, after, whole, starts, ends⟩ := stands
  rcases List.append_eq_append_iff.mp whole with ⟨x, rfl, right⟩ | ⟨x, rfl, right⟩
  · -- the version begins in the second text, and a separator would stand before it
    rcases List.eq_nil_or_concat x with rfl | ⟨y, c, rfl⟩
    · exact ⟨after, right, ends⟩
    · have inside : c ∈ rest := by simp [right]
      rw [List.concat_eq_append, ← List.append_assoc, List.getLast?_concat, noSeparator c inside] at starts
      cases starts
  · -- it begins in the first, with a digit
    cases x with
    | nil => exact ⟨after, right.symm, ends⟩
    | cons c x =>
      rw [begins] at right
      obtain ⟨rfl, -⟩ := List.cons.inj right
      rw [noDigit d (by simp)] at digit
      cases digit

/-! ## What stands after a version -/

/-- No extension is the end of another. -/
theorem eq_of_extensions_end : ∀ e ∈ extensions, ∀ x ∈ archiveExtensions,
    e.toList <:+ x.toList ∨ x.toList <:+ e.toList → e = x := by
  decide

/-- Two versions before the ending of an archive and before what a component may end before are the same. -/
theorem canonical_eq_of_archive {v w : Version} {extension : String} {after : List Char} (known : extension ∈ archiveExtensions)
    (whole : w.canonical.toList ++ extension.toList = v.canonical.toList ++ after) (ends : endsComponent after = true) :
    v.canonical = w.canonical := by
  have noHyphen : ∀ e ∈ archiveExtensions, '-' ∉ e.toList := by decide
  rcases (endsComponent_iff after).mp ends with rfl | ⟨rest, rfl⟩ | ⟨e, listed, rfl⟩
  · -- the extension would be the end of a version, and each has a letter that versions do not have
    have z : ∀ e ∈ archiveExtensions, 'z' ∈ e.toList := by decide
    have inside : 'z' ∈ v.canonical.toList := by
      rw [List.append_nil] at whole
      rw [← whole]
      exact List.mem_append_right _ (z extension known)
    cases Version.isCanonical_of_mem_canonical inside
  · have inside : '-' ∈ w.canonical.toList ++ extension.toList := by simp [whole]
    rcases List.mem_append.mp inside with here | there
    · cases startsComponent_of_mem_canonical here
    · exact absurd there (noHyphen extension known)
  · have same : e = extension := by
      refine eq_of_extensions_end e listed extension known ?_
      rcases List.append_eq_append_iff.mp whole with ⟨x, -, right⟩ | ⟨x, -, right⟩
      · exact .inl ⟨x, right.symm⟩
      · exact .inr ⟨x, right.symm⟩
    rw [same] at whole
    exact String.toList_inj.mp (List.append_cancel_right whole).symm

/-! ## Archives -/

/-- The pieces of the name of a source distribution whose project is spelled with letters and separators. -/
structure Archive where
  project : List Char
  version : Version
  extension : String
  plain : ∀ c ∈ project, c.isAlpha = true ∨ isWordSeparator c = true
  known : extension ∈ archiveExtensions

namespace Archive

/-- The file name of an archive. -/
def fileName (a : Archive) : List Char := a.project ++ '-' :: (a.version.canonical.toList ++ a.extension.toList)

/-- The file name of an archive in lower case: only the project can be in another. -/
theorem lowerAscii_fileName (a : Archive) :
    lowerAscii a.fileName = (lowerAscii a.project ++ ['-']) ++ (a.version.canonical.toList ++ a.extension.toList) := by
  have lower : ∀ e ∈ archiveExtensions, lowerAscii e.toList = e.toList := by decide
  have lowered : ∀ s t, lowerAscii (s ++ t) = lowerAscii s ++ lowerAscii t := fun s t => List.map_append
  rw [fileName, List.append_cons, lowered, lowered, lowered, a.version.lowerAscii_canonical, lower _ a.known]
  rfl

theorem noDigit_project (a : Archive) : ∀ c ∈ lowerAscii a.project ++ ['-'], c.isDigit = false := by
  refine List.forall_mem_append.mpr ⟨List.forall_mem_map.mpr fun c hc => ?_, List.forall_mem_singleton.mpr rfl⟩
  rw [isDigit_toLower, Bool.eq_false_iff, Ne, isDigit_iff]
  rcases a.plain c hc with letter | separator
  · have code := (isAlpha_iff c).mp letter
    omega
  · rcases (isWordSeparator_iff c).mp separator with rfl | rfl | rfl
    all_goals decide

theorem noSeparator_version (a : Archive) :
    ∀ c ∈ a.version.canonical.toList ++ a.extension.toList, startsComponent (some c) = false := by
  have plain : ∀ e ∈ archiveExtensions, e.toList.any (fun c => startsComponent (some c)) = false := by decide
  refine List.forall_mem_append.mpr ⟨fun _ => startsComponent_of_mem_canonical, fun c there => ?_⟩
  exact Bool.eq_false_iff.mpr (List.any_eq_false.mp (plain _ a.known) c there)

/-- One version is found in the name of an archive. -/
theorem standsIn_fileName_iff (a : Archive) (v : Version) :
    StandsIn v.canonical.toList (lowerAscii a.fileName) ↔ v.canonical = a.version.canonical := by
  rw [lowerAscii_fileName]
  constructor
  · intro stands
    obtain ⟨d, more, begins, digit⟩ := v.exists_canonical_eq_cons
    obtain ⟨after, whole, ends⟩ := standsIn_after begins digit a.noDigit_project a.noSeparator_version stands
    exact canonical_eq_of_archive a.known whole ends
  · intro same
    have extension : ∀ e ∈ archiveExtensions, endsComponent e.toList = true := by decide
    refine ⟨lowerAscii a.project ++ ['-'], a.extension.toList, by rw [same], ?_, extension _ a.known⟩
    rw [List.getLast?_concat]
    decide

/-- An archive carries its own version and no other: a version is found in its name exactly when the two have one canonical form,
which is when they show the same components. So a development, pre- or post-release does not pass for the release, nor one release
for another that goes on with further numbers, nor the other way round. -/
theorem carriesVersion_archive_iff (a : Archive) (v : Version) :
    (carriesVersion a.fileName v.canonical.toList = true ↔ v.canonical = a.version.canonical) ∧
      ∀ p q, v.Shows p → a.version.Shows q → (carriesVersion a.fileName v.canonical.toList = true ↔ p = q) := by
  have found : carriesVersion a.fileName v.canonical.toList = true ↔ v.canonical = a.version.canonical := by
    rw [carriesVersion_canonical_iff, standsIn_fileName_iff]
  exact ⟨found, fun p q ofV ofArchive => found.trans (Version.canonical_eq_iff_of_shows ofV ofArchive)⟩

/-- A development release of the widget. -/
def developed : Archive where
  project := "widget".toList
  version := ⟨"1.0.dev3", by decide +kernel⟩
  extension := ".tar.gz"
  plain := by
    have letters : "widget".toList.all Char.isAlpha = true := by decide
    exact fun c there => .inl (List.all_eq_true.mp letters c there)
  known := by decide

/-- A development release is not taken for the release. -/
theorem carriesVersion_archive_iff_developed :
    ∃ v : Version, v.canonical = "1.0" ∧ developed.version.canonical = "1.0.dev3" ∧
      developed.fileName = "widget-1.0.dev3.tar.gz".toList ∧
      carriesVersion developed.fileName developed.version.canonical.toList = true ∧
      carriesVersion developed.fileName v.canonical.toList = false := by
  have release : Version.canonical ⟨"1.0", by decide +kernel⟩ = "1.0" := by decide +kernel
  have development : developed.version.canonical = "1.0.dev3" := by decide +kernel
  have own := (developed.carriesVersion_archive_iff developed.version).1.mpr rfl
  refine ⟨⟨"1.0", by decide +kernel⟩, release, development, by decide +kernel, own, ?_⟩
  rw [Bool.eq_false_iff, Ne, (developed.carriesVersion_archive_iff _).1, release, development]
  decide

end Archive

end ReleaseGate.Naming
