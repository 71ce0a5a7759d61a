import ReleaseGate.Proofs.Naming.Components
import ReleaseGate.Proofs.Naming.Normalization
import ReleaseGate.Proofs.Verification.Directories

/-!
# What passing says, and what it leaves open

That a set passes says something of every file name (`names_of_pass`) and of every line of the checksum file (`lines_of_pass`). It
says less than it seems to. A file name need only begin as the name of the package does, so that a file of `widgetry` passes for
`widget`. And of several lines for one name only the last is compared with the file.
-/

namespace ReleaseGate

/-! ## Names -/

namespace Naming

/-- A text goes on after another. -/
def Continues (longer shorter : List Char) : Prop := shorter <+: longer ∧ shorter ≠ longer

/-- Of two beginnings of one text that are not the same, one goes on after the other. -/
theorem eq_or_continues {a b whole : List Char} (ha : a <+: whole) (hb : b <+: whole) :
    a = b ∨ Continues a b ∨ Continues b a := by
  by_cases same : a = b
  · exact .inl same
  · rcases List.prefix_or_prefix_of_prefix ha hb with h | h
    · exact .inr (.inr ⟨h, same⟩)
    · exact .inr (.inl ⟨h, Ne.symm same⟩)

/-- A file name begins with the project that it names, also when both are normalized. -/
theorem NamesProject.normalizeName_prefix {v : Version} {project fileName : List Char} (h : NamesProject v project fileName) :
    normalizeName project <+: normalizeName fileName := by
  obtain ⟨separator, rest, rfl, -, -⟩ := h
  exact Naming.normalizeName_prefix project _

end Naming

namespace Verifier

open ArtifactSet Naming

/-- The files of a set that passes are named for its version and for its package, as far as that is checked: a file name begins
with the version or names some project for it, and each project that it names is the package, up to its spelling, or is one of the
two that goes on after the other. -/
theorem names_of_pass {fs : FileSystem} {cwd : Place} {s : ArtifactSet} (passed : verify fs cwd s = .pass) :
    ∃ d, s.descriptor = some d ∧ ∀ a ∈ s.artifacts,
      (BeginsWithVersion s.version a.fileName.toList ∨ ∃ project, NamesProject s.version project a.fileName.toList) ∧
        ∀ project, NamesProject s.version project a.fileName.toList →
          normalizeName project = normalizeName d.name.toList ∨
            Continues (normalizeName project) (normalizeName d.name.toList) ∨
            Continues (normalizeName d.name.toList) (normalizeName project) := by
  have sound := (verify_eq_pass_iff fs cwd s).mp passed
  obtain ⟨d, described, -⟩ : Sound fs cwd s .descriptor := sound .descriptor
  obtain ⟨carried, attributed⟩ : Sound fs cwd s .attribution := sound .attribution
  refine ⟨d, described, fun a ha => ⟨carriesVersion_iff_namesProject.mp (carried a ha), fun project names => ?_⟩⟩
  have package : normalizeName d.name.toList <+: normalizeName a.fileName.toList := (attributed d described).package a ha
  exact eq_or_continues names.normalizeName_prefix package

end Verifier

namespace Widget

open ArtifactSet FileSystem Verifier

theorem suits_fileName : Suits fileName := by
  refine ⟨⟨⟨?_, ?_, ?_, ?_, ?_⟩, ?_, ?_⟩, ?_, Checksums.isRecordable_of_hexDigest rfl ?_ ?_ ?_ ?_, ?_, ?_⟩
  all_goals decide

/-- The file of the widget is named for its version and for the widget. -/
theorem names_of_pass_widget :
    verify (onDisk fileName []) [] (setOfFolder fileName []) = .pass ∧
      ∃ d, (setOfFolder fileName []).descriptor = some d ∧ ∀ a ∈ (setOfFolder fileName []).artifacts,
        (Naming.BeginsWithVersion version a.fileName.toList ∨ ∃ project, Naming.NamesProject version project a.fileName.toList) ∧
          ∀ project, Naming.NamesProject version project a.fileName.toList →
            Naming.normalizeName project = Naming.normalizeName d.name.toList ∨
              Naming.Continues (Naming.normalizeName project) (Naming.normalizeName d.name.toList) ∨
              Naming.Continues (Naming.normalizeName d.name.toList) (Naming.normalizeName project) := by
  have passed : verify (onDisk fileName []) [] (setOfFolder fileName []) = .pass := verify_onDisk suits_fileName nofun nofun
  exact ⟨passed, names_of_pass passed⟩

/-- A file of another project, whose name is longer. -/
def otherFileName : String := "widgetry-1.2.0.tar.gz"

theorem suits_otherFileName : Suits otherFileName := by
  refine ⟨⟨⟨?_, ?_, ?_, ?_, ?_⟩, ?_, ?_⟩, ?_, Checksums.isRecordable_of_hexDigest rfl ?_ ?_ ?_ ?_, ?_, ?_⟩
  all_goals decide

/-- The file of the other project passes for the widget, although whatever project it names for the version is not the widget. -/
theorem passes_otherFileName :
    verify (onDisk otherFileName []) [] (setOfFolder otherFileName []) = .pass ∧
      (setOfFolder otherFileName []).descriptor = some descriptor ∧
      ∃ a ∈ (setOfFolder otherFileName []).artifacts, a.fileName = "widgetry-1.2.0.tar.gz" ∧
        ∀ project, Naming.NamesProject version project a.fileName.toList →
          Naming.normalizeName project ≠ Naming.normalizeName descriptor.name.toList := by
  refine ⟨verify_onDisk suits_otherFileName nofun nofun, rfl, stored otherFileName, ?_, rfl, ?_⟩
  · rw [artifacts_setOfFolder suits_otherFileName]
    exact List.mem_singleton_self _
  · rintro project ⟨separator, rest, whole, starts, -⟩
    have cuts : ∀ n < otherFileName.toList.length, Naming.startsComponent otherFileName.toList[n]? = true →
        Naming.normalizeName (otherFileName.toList.take n) ≠ Naming.normalizeName descriptor.name.toList := by
      decide
    have spelled : otherFileName.toList = project ++ separator :: rest := whole
    have cut := cuts project.length (by simp [spelled]) (by simpa [spelled] using starts)
    simpa [spelled] using cut

end Widget

/-! ## Lines -/

namespace Verifier

open ArtifactSet

/-- Every line of the checksum file of a set that passes is blank or records a digest for a file of the set; and the digest is
that of the file, if no later line records one for the same name. -/
theorem lines_of_pass {fs after : FileSystem} {cwd cwd' : Place} {dir : Path} {version : Version} {s : ArtifactSet}
    (loaded : load fs cwd dir version = .ok s) (passed : verify after cwd' s = .pass) :
    ∃ text, fs.readText cwd (dir.entry Checksums.fileName) = .ok text ∧
      ∀ earlier line later, Text.lines text.toList = earlier ++ line :: later → Text.trim line ≠ [] →
        ∃ a ∈ s.artifacts, ∃ digest, Checksums.Records line a.fileName digest ∧
          ((∀ l ∈ later, ∀ d, ¬Checksums.Records l a.fileName d) → digest = a.sha256) := by
  obtain ⟨-, -, -, -, checksums, -⟩ := exists_of_load loaded
  obtain ⟨recorded, there, agrees⟩ : Sound after cwd' s .checksums := (verify_eq_pass_iff after cwd' s).mp passed .checksums
  rw [there] at checksums
  obtain ⟨text, read, rfl⟩ := exists_text_of_loadChecksums checksums
  refine ⟨text, read, fun earlier line later cut filled => ?_⟩
  have inside : line ∈ Text.lines text.toList := by
    rw [cut]
    simp
  have wellFormed := (Checksums.parse_eq text).2.mp agrees.wellFormed line inside
  obtain ⟨⟨name, digest⟩, recorded⟩ := Option.ne_none_iff_exists'.mp fun nothing => wellFormed ⟨filled, nothing⟩
  have here : Checksums.Records line name digest := (Checksums.recorded?_eq_some_iff line name digest).mp recorded
  have named : name ∈ (Checksums.parse text).names :=
    Checksums.mem_names_parse_iff.mpr ⟨digest, List.mem_filterMap.mpr ⟨line, inside, recorded⟩⟩
  obtain ⟨entry, he, spelled⟩ := List.mem_map.mp named
  obtain ⟨a, ha, rfl⟩ : ∃ a ∈ s.artifacts, a.fileName = name := spelled ▸ agrees.exact entry he
  refine ⟨a, ha, digest, here, fun last => ?_⟩
  have known := Checksums.digest?_parse_of_last cut here last
  exact Option.some.inj (known.symm.trans (agrees.complete a ha))

end Verifier

namespace Widget

open ArtifactSet FileSystem Verifier

/-- The lines of the checksum file of the widget record its file. -/
theorem lines_of_pass_widget :
    load (onDisk fileName []) [] ⟨"/"⟩ version = .ok (setOfFolder fileName []) ∧
      verify (onDisk fileName []) [] (setOfFolder fileName []) = .pass ∧
      ∃ text, (onDisk fileName []).readText [] (Path.entry ⟨"/"⟩ Checksums.fileName) = .ok text ∧
        ∀ earlier line later, Text.lines text.toList = earlier ++ line :: later → Text.trim line ≠ [] →
          ∃ a ∈ (setOfFolder fileName []).artifacts, ∃ digest, Checksums.Records line a.fileName digest ∧
            ((∀ l ∈ later, ∀ d, ¬Checksums.Records l a.fileName d) → digest = a.sha256) := by
  have loaded : load (onDisk fileName []) [] ⟨"/"⟩ version = .ok (setOfFolder fileName []) := load_onDisk suits_fileName
  have passed : verify (onDisk fileName []) [] (setOfFolder fileName []) = .pass := verify_onDisk suits_fileName nofun nofun
  exact ⟨loaded, passed, lines_of_pass loaded passed⟩

/-- The file of the widget with a digest that is not its own. -/
def mistaken : Artifact := { stored fileName with sha256 := "0" }

theorem isRecordable_mistaken : Checksums.IsRecordable mistaken := by
  refine ⟨by decide, ?_, by decide, suits_fileName.recordable.named, suits_fileName.recordable.oneLine,
    suits_fileName.recordable.trimmed, suits_fileName.recordable.unmarked⟩
  intro c hc
  obtain rfl : c = '0' := by simpa [mistaken] using hc
  decide

/-- A line that contradicts the file passes when a later line for the file does not. -/
theorem passes_mistaken :
    load (onDisk fileName [mistaken]) [] ⟨"/"⟩ version = .ok (setOfFolder fileName [mistaken]) ∧
      verify (onDisk fileName [mistaken]) [] (setOfFolder fileName [mistaken]) = .pass ∧
      ∃ text, (onDisk fileName [mistaken]).readText [] (Path.entry ⟨"/"⟩ Checksums.fileName) = .ok text ∧
        ∃ line ∈ Text.lines text.toList, Text.trim line ≠ [] ∧
          ∀ a ∈ (setOfFolder fileName [mistaken]).artifacts, ¬Checksums.Records line a.fileName a.sha256 := by
  have recordable : ∀ a ∈ [mistaken], Checksums.IsRecordable a := List.forall_mem_singleton.mpr isRecordable_mistaken
  have all : ∀ a ∈ [mistaken] ++ [stored fileName], Checksums.IsRecordable a :=
    List.forall_mem_append.mpr ⟨recordable, List.forall_mem_singleton.mpr suits_fileName.recordable⟩
  have passed : verify (onDisk fileName [mistaken]) [] (setOfFolder fileName [mistaken]) = .pass :=
    verify_onDisk suits_fileName recordable (List.forall_mem_singleton.mpr rfl)
  refine ⟨load_onDisk suits_fileName, passed, recordsText fileName [mistaken], ?_, Checksums.row mistaken, ?_, ?_, ?_⟩
  · exact readText_of_holds (holds_onDisk suits_fileName) fits_checksums (by simp [folder])
  · rw [recordsText, Checksums.lines_print all]
    exact List.mem_cons_self
  · rw [isRecordable_mistaken.trim_row]
    simp [Checksums.row]
  · intro a ha wrong
    rw [artifacts_setOfFolder suits_fileName] at ha
    obtain rfl := List.mem_singleton.mp ha
    have first := (Checksums.recorded?_eq_some_iff _ _ _).mpr isRecordable_mistaken.records_row
    have second := (Checksums.recorded?_eq_some_iff _ _ _).mpr wrong
    have same : mistaken.sha256 = (stored fileName).sha256 := (Prod.mk.inj (Option.some.inj (first.symm.trans second))).2
    have length : (stored fileName).sha256.length = 64 := Sha256.length_hexDigest bytes
    rw [← same] at length
    cases length

end Widget

end ReleaseGate
