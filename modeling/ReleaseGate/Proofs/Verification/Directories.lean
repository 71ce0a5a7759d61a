import ReleaseGate.Proofs.Artifact.ChecksumFile
import ReleaseGate.Proofs.Artifact.Loading
import ReleaseGate.Proofs.Run.Course
import ReleaseGate.Proofs.Verification.Families
import ReleaseGate.Proofs.Version.Canonical

/-!
# Directories that pass

What the demands of the verifier come to for the files of a directory. Its artifacts can always be read with the digests they were
loaded with, and a checksum file that was written for them agrees with them; what remains is said of names and of the descriptor.
`Widget.folder` is a directory on which the results about loaded sets can be looked at.
-/

namespace ReleaseGate.ArtifactSet

open FileSystem Verifier

variable {fs : FileSystem} {cwd : Place} {dir : Path} {files : List (String × List UInt8)}
variable {version : Version} {d : Descriptor}

/-- The files of a directory are as they were when they were loaded. -/
theorem contentsSound_of_holds (held : Holds fs cwd dir files) (fits : ∀ f ∈ files, Fits dir f.1)
    (inhabited : artifactsIn dir files ≠ []) (sized : ∀ a ∈ artifactsIn dir files, 0 < a.size) (descriptor : Option Descriptor)
    (checksums : Option Checksums) : ContentsSound fs cwd (ofFiles dir files version descriptor checksums) := by
  refine ⟨?_, ?_, ?_⟩
  · intro empty
    obtain ⟨a, ha⟩ := List.exists_mem_of_ne_nil _ inhabited
    have inSorted : a ∈ sorted (artifactsIn dir files) := mem_sorted_iff.mpr ha
    rw [show sorted (artifactsIn dir files) = [] from empty] at inSorted
    cases inSorted
  · intro a ha
    exact sized a (mem_sorted_iff.mp ha)
  · intro a ha
    obtain ⟨name, bytes, there, -, rfl⟩ := mem_artifactsIn_iff.mp (mem_sorted_iff.mp ha)
    exact ⟨bytes, held.readBytes (fits _ there) there, rfl⟩

/-- A checksum file that was written for the artifacts of a set agrees with the set, whatever was recorded for their names
before. -/
theorem agrees_of_print {s : ArtifactSet} {earlier : List Artifact}
    (recordable : ∀ a ∈ earlier ++ s.artifacts, Checksums.IsRecordable a)
    (replaced : ∀ e ∈ earlier, ∃ a ∈ s.artifacts, a.fileName = e.fileName) (distinct : (s.artifacts.map (·.fileName)).Nodup) :
    Agrees (Checksums.parse (Checksums.print (earlier ++ s.artifacts))) s := by
  have recorded := Checksums.records_print recordable
  refine ⟨Checksums.malformed_parse_print recordable, fun a ha => ?_, fun entry he => ?_⟩
  · have names : ((s.artifacts.map fun a => (a.fileName, a.sha256)).map (·.1)) = s.artifacts.map (·.fileName) := by
      rw [List.map_map]
      rfl
    have found : (s.artifacts.map fun a => (a.fileName, a.sha256)).reverse.lookup a.fileName = some a.sha256 := by
      refine lookup_of_mem ?_ (List.mem_reverse.mpr (List.mem_map.mpr ⟨a, ha, rfl⟩))
      rw [List.map_reverse, names]
      exact (List.reverse_perm _).nodup_iff.mpr distinct
    show (Checksums.parse _).digest? a.fileName = some a.sha256
    rw [Checksums.digest?_parse, recorded, List.map_append, List.reverse_append, List.lookup_append, found, Option.some_or]
  · obtain ⟨digest, inside⟩ := Checksums.mem_names_parse_iff.mp (List.mem_map_of_mem he)
    rw [recorded] at inside
    obtain ⟨a, ha, same⟩ := List.mem_map.mp inside
    rw [← (Prod.mk.inj same).1]
    rcases List.mem_append.mp ha with before | there
    · exact replaced a before
    · exact ⟨a, there, rfl⟩

/-- The names of the artifacts of a directory are distinct. -/
theorem nodup_fileNames_of_holds (held : Holds fs cwd dir files) : ((sorted (artifactsIn dir files)).map (·.fileName)).Nodup := by
  have sameNames : ((sorted (artifactsIn dir files)).map (·.fileName)).Perm ((artifactsIn dir files).map (·.fileName)) :=
    (List.mergeSort_perm _ _).map _
  rw [sameNames.nodup_iff]
  rw [fileNames_artifactsIn]
  exact held.distinct.filter _

/-- The set of the files of a directory passes when they are not empty, their names carry the version and the package, the
checksums agree and the descriptor is in order. -/
theorem verify_of_holds (held : Holds fs cwd dir files) (fits : ∀ f ∈ files, Fits dir f.1) (inhabited : artifactsIn dir files ≠ [])
    (sized : ∀ a ∈ artifactsIn dir files, 0 < a.size) {checksums : Checksums}
    (agrees : Agrees checksums (ofFiles dir files version (some d) (some checksums)))
    (carried : ∀ a ∈ artifactsIn dir files, Naming.carriesVersion a.fileName.toList version.canonical.toList = true)
    (package : ∀ a ∈ artifactsIn dir files, Naming.normalizeName d.name.toList <+: Naming.normalizeName a.fileName.toList)
    (spelled : ∃ v, Version.parse d.version = .ok v ∧ v.canonical = version.canonical) (filledIn : FilledIn d)
    (wellMarked : WellMarked d) :
    verify fs cwd (ofFiles dir files version (some d) (some checksums)) = .pass := by
  rw [verify_eq_pass_iff]
  intro family
  cases family with
  | contents => exact contentsSound_of_holds held fits inhabited sized _ _
  | checksums => exact ⟨checksums, rfl, agrees⟩
  | attribution =>
    refine ⟨fun a ha => carried a (mem_sorted_iff.mp ha), fun d' hd => ?_⟩
    obtain rfl : d = d' := by simpa [ofFiles] using hd
    exact ⟨fun a ha => package a (mem_sorted_iff.mp ha), spelled⟩
  | descriptor => exact ⟨d, rfl, filledIn⟩
  | markup =>
    intro d' hd
    obtain rfl : d = d' := by simpa [ofFiles] using hd
    exact wellMarked

end ReleaseGate.ArtifactSet

/-! ## A directory to look at -/

namespace ReleaseGate.Widget

open ArtifactSet FileSystem Verifier

theorem canonical_version : version.canonical = "1.2.0" := by decide +kernel

/-- The file that the bytes of the widget are under a name. -/
def stored (name : String) : Artifact := artifactAt ⟨"/"⟩ name bytes

/-- The text of a checksum file that records the file after some other artifacts. -/
def recordsText (name : String) (earlier : List Artifact) : String := Checksums.print (earlier ++ [stored name])

/-- The files of a directory for the widget: its bytes under some name, its descriptor, and a checksum file that records the file
after some other artifacts. -/
def folder (name : String) (earlier : List Artifact) : List (String × List UInt8) :=
  [(name, bytes), (descriptorFileName, Text.Utf8.encode (descriptorText descriptor)),
    (Checksums.fileName, Text.Utf8.encode (recordsText name earlier))]

/-- A file system with these files at its root. -/
def onDisk (name : String) (earlier : List Artifact) : FileSystem :=
  ⟨(folder name earlier).map fun f => ([f.1], .file f.2 true)⟩

/-- The set that is made of them. -/
def setOfFolder (name : String) (earlier : List Artifact) : ArtifactSet :=
  ofFiles ⟨"/"⟩ (folder name earlier) version (some descriptor) (some (Checksums.parse (recordsText name earlier)))

/-- Whether the bytes of the widget can stand in the directory under a name, and the name is one that passes. -/
structure Suits (name : String) : Prop where
  fits : Fits ⟨"/"⟩ name
  kept : isBookkeeping name = false
  recordable : Checksums.IsRecordable (stored name)
  carries : Naming.carriesVersion name.toList "1.2.0".toList = true
  belongs : Naming.normalizeName descriptor.name.toList <+: Naming.normalizeName name.toList

variable {name : String} {earlier : List Artifact}

theorem artifacts_folder (suits : Suits name) : artifactsIn ⟨"/"⟩ (folder name earlier) = [stored name] := by
  have descriptorDropped : isBookkeeping descriptorFileName = true := by decide
  have checksumsDropped : isBookkeeping Checksums.fileName = true := by decide
  simp [folder, artifactsIn, suits.kept, descriptorDropped, checksumsDropped, stored]

theorem artifacts_setOfFolder (suits : Suits name) : (setOfFolder name earlier).artifacts = [stored name] := by
  show sorted (artifactsIn _ _) = _
  rw [artifacts_folder suits]
  simp [sorted]

theorem holds_onDisk (suits : Suits name) : Holds (onDisk name earlier) [] ⟨"/"⟩ (folder name earlier) := by
  have steps : Path.steps ⟨"/"⟩ = [] := by decide
  have root : LeadsTo (onDisk name earlier) [] ⟨"/"⟩ [] := by
    refine ⟨by decide, by decide, by decide, ⟨maxLinks, ?_⟩, rfl⟩
    rw [steps]
    exact .here _ _
  refine ⟨root.list, ?_⟩
  obtain ⟨notChecksums, notDescriptor⟩ : name ≠ Checksums.fileName ∧ name ≠ descriptorFileName := by
    simpa [isBookkeeping] using suits.kept
  have apart : descriptorFileName ≠ Checksums.fileName := by decide
  simp [folder, notChecksums, notDescriptor, apart]

theorem fits_descriptor : Fits ⟨"/"⟩ descriptorFileName := ⟨isName_descriptor, by decide, by decide⟩

theorem fits_checksums : Fits ⟨"/"⟩ Checksums.fileName := ⟨isName_checksums, by decide, by decide⟩

theorem fits_folder (suits : Suits name) : ∀ f ∈ folder name earlier, Fits ⟨"/"⟩ f.1 := by
  simp only [folder, List.forall_mem_cons]
  exact ⟨suits.fits, fits_descriptor, fits_checksums, nofun⟩

theorem load_onDisk (suits : Suits name) :
    load (onDisk name earlier) [] ⟨"/"⟩ version = .ok (setOfFolder name earlier) := by
  have held : Holds (onDisk name earlier) [] ⟨"/"⟩ (folder name earlier) := holds_onDisk suits
  have fits : ∀ f ∈ folder name earlier, Fits ⟨"/"⟩ f.1 := fits_folder suits
  refine load_of_holds held fits ?_ ?_ version
  · exact loadChecksums_of_holds held fits_checksums (by simp [folder])
  · exact loadDescriptor_of_holds held fits_descriptor (by simp [folder])

/-- The checksum file agrees with the set when nothing is recorded before the file but artifacts of its name. -/
theorem agrees_folder (suits : Suits name) (recordable : ∀ a ∈ earlier, Checksums.IsRecordable a)
    (named : ∀ a ∈ earlier, a.fileName = name) :
    Agrees (Checksums.parse (recordsText name earlier)) (setOfFolder name earlier) := by
  have artifacts : (setOfFolder name earlier).artifacts = [stored name] := artifacts_setOfFolder suits
  have text : recordsText name earlier = Checksums.print (earlier ++ (setOfFolder name earlier).artifacts) := by
    rw [artifacts]
    rfl
  rw [text]
  refine agrees_of_print ?_ (fun a ha => ?_) ?_
  · rw [artifacts]
    exact List.forall_mem_append.mpr ⟨recordable, List.forall_mem_singleton.mpr suits.recordable⟩
  · rw [artifacts]
    exact ⟨stored name, List.mem_singleton_self _, (named a ha).symm⟩
  · rw [artifacts]
    simp

/-- Then the set passes. -/
theorem verify_onDisk (suits : Suits name) (recordable : ∀ a ∈ earlier, Checksums.IsRecordable a)
    (named : ∀ a ∈ earlier, a.fileName = name) : verify (onDisk name earlier) [] (setOfFolder name earlier) = .pass := by
  have parsed : Version.parse descriptor.version = .ok ⟨"1.2.0", by decide⟩ :=
    (Version.parse_eq_ok_iff _ _).mpr (by decide : Text.trimmed "1.2.0" = "1.2.0")
  have canonical : (⟨"1.2.0", by decide⟩ : Version).canonical = version.canonical := by decide +kernel
  refine verify_of_holds (holds_onDisk suits) (fits_folder suits) ?_ ?_ (agrees_folder suits recordable named) ?_ ?_
    ⟨_, parsed, canonical⟩ filledIn_descriptor (wellMarked_of_plain hasMediaType_descriptor)
  all_goals rw [artifacts_folder suits]
  · simp
  · rw [List.forall_mem_singleton]
    have filled : (0 : UInt64) < bytes.length.toUInt64 := by decide
    exact filled
  · rw [List.forall_mem_singleton, canonical_version]
    exact suits.carries
  · rw [List.forall_mem_singleton]
    exact suits.belongs

end ReleaseGate.Widget
