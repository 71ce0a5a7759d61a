import ReleaseGate.Artifact.Store
import ReleaseGate.Proofs.Codec.Domain
import ReleaseGate.Proofs.Files.Directory
import ReleaseGate.Proofs.Files.Encoding

/-!
# Sets of the files of a directory

In a directory that holds some files and nothing else, an artifact set is made of exactly these files: `load_of_holds` says which
set that is. What the writer of a descriptor writes is loaded as that descriptor (`decodeDescriptor_descriptorText`).
-/

namespace ReleaseGate.ArtifactSet

open FileSystem Text

variable {fs : FileSystem} {cwd : Place} {dir : Path} {files : List (String × List UInt8)}

/-! ## Artifacts -/

/-- The artifact that a file of a directory is. -/
def artifactAt (dir : Path) (name : String) (bytes : List UInt8) : Artifact :=
  { fileName := name, path := dir.entry name, size := bytes.length.toUInt64, sha256 := Sha256.hexDigest bytes }

/-- The artifacts among the files of a directory, in the order of the files. -/
def artifactsIn (dir : Path) (files : List (String × List UInt8)) : List Artifact :=
  (files.filter fun f => !isBookkeeping f.1).map fun f => artifactAt dir f.1 f.2

theorem mem_artifactsIn_iff {a : Artifact} :
    a ∈ artifactsIn dir files ↔
      ∃ name bytes, (name, bytes) ∈ files ∧ isBookkeeping name = false ∧ a = artifactAt dir name bytes := by
  unfold artifactsIn
  rw [List.mem_map]
  constructor
  · rintro ⟨⟨name, bytes⟩, inside, rfl⟩
    obtain ⟨there, kept⟩ := List.mem_filter.mp inside
    exact ⟨name, bytes, there, by simpa using kept, rfl⟩
  · rintro ⟨name, bytes, there, kept, rfl⟩
    exact ⟨(name, bytes), List.mem_filter.mpr ⟨there, by simp [kept]⟩, rfl⟩

theorem fileNames_artifactsIn :
    (artifactsIn dir files).map (·.fileName) = (files.map (·.1)).filter fun name => !isBookkeeping name := by
  unfold artifactsIn artifactAt
  rw [List.map_map, List.filter_map]
  rfl

/-- The artifacts of a directory of files are found, each with its digest. -/
theorem artifactsOf_of_holds (held : Holds fs cwd dir files) (fits : ∀ f ∈ files, Fits dir f.1) :
    artifactsOf fs cwd dir (files.map fun f => (f.1, .file f.2 true)) = .ok (artifactsIn dir files) := by
  have each : ∀ part, (∀ f ∈ part, f ∈ files) →
      artifactsOf fs cwd dir (part.map fun f => (f.1, .file f.2 true)) = .ok (artifactsIn dir part) := by
    intro part inside
    induction part with
    | nil => rfl
    | cons f rest ih =>
      obtain ⟨name, bytes⟩ := f
      obtain ⟨there, later⟩ := List.forall_mem_cons.mp inside
      have read : fs.readBytes cwd (dir.entry name) = .ok bytes := held.readBytes (fits _ there) there
      have tail := ih later
      rw [List.map_cons, artifactsOf, tail]
      unfold artifactOf? artifactsIn
      by_cases kept : isBookkeeping name = true
      · simp [kept, Except.bind, Except.map]
      · simp [kept, Except.bind, Except.map, digestOf, read, artifactAt]
  exact each files fun _ hf => hf

theorem mem_sorted_iff {a : Artifact} {artifacts : List Artifact} : a ∈ sorted artifacts ↔ a ∈ artifacts :=
  (List.mergeSort_perm artifacts _).mem_iff

/-! ## Bookkeeping files -/

theorem isName_descriptor : Path.IsName Verifier.descriptorFileName := by
  refine ⟨?_, ?_, ?_, ?_, ?_⟩ <;> decide

theorem isName_checksums : Path.IsName Checksums.fileName := by
  refine ⟨?_, ?_, ?_, ?_, ?_⟩ <;> decide

/-- A file that holds the bytes of a text is read as that text. -/
theorem readText_of_holds (held : Holds fs cwd dir files) {name : String} (fits : Fits dir name) {text : String}
    (there : (name, Utf8.encode text) ∈ files) : fs.readText cwd (dir.entry name) = .ok text := by
  unfold readText
  rw [held.readBytes fits there]
  simp [Except.bind]

theorem loadChecksums_of_holds (held : Holds fs cwd dir files) (fits : Fits dir Checksums.fileName) {text : String}
    (there : (Checksums.fileName, Utf8.encode text) ∈ files) : loadChecksums fs cwd dir = .ok (some (Checksums.parse text)) := by
  have isFile : fs.isFile cwd (dir.entry Checksums.fileName) = true :=
    (held.isFile_iff fits).mpr (List.mem_map.mpr ⟨_, there, rfl⟩)
  unfold loadChecksums
  simp [isFile, readText_of_holds held fits there]

theorem loadChecksums_of_missing (held : Holds fs cwd dir files) (fits : Fits dir Checksums.fileName)
    (missing : Checksums.fileName ∉ files.map (·.1)) : loadChecksums fs cwd dir = .ok none := by
  have noFile : ¬fs.isFile cwd (dir.entry Checksums.fileName) = true := mt (held.isFile_iff fits).mp missing
  unfold loadChecksums
  simp [noFile]

/-- What is written for a descriptor is read as that descriptor. -/
theorem decodeDescriptor_descriptorText (d : Descriptor) : decodeDescriptor (Utf8.encode (descriptorText d)) = .ok d := by
  have parsed : (Json.parse? (descriptorText d)).bind Codec.descriptor? = some d :=
    Codec.readsBack_descriptor.parse?_print (.spread 0) d
  unfold decodeDescriptor
  rw [Utf8.decode_encode, Option.bind_some, parsed]

theorem loadDescriptor_of_holds (held : Holds fs cwd dir files) (fits : Fits dir Verifier.descriptorFileName) {d : Descriptor}
    (there : (Verifier.descriptorFileName, Utf8.encode (descriptorText d)) ∈ files) :
    loadDescriptor fs cwd dir = .ok (some d) := by
  have isFile : fs.isFile cwd (dir.entry Verifier.descriptorFileName) = true :=
    (held.isFile_iff fits).mpr (List.mem_map.mpr ⟨_, there, rfl⟩)
  unfold loadDescriptor
  simp [isFile, held.readBytes fits there, decodeDescriptor_descriptorText, Except.map]

theorem loadDescriptor_of_missing (held : Holds fs cwd dir files) (fits : Fits dir Verifier.descriptorFileName)
    (missing : Verifier.descriptorFileName ∉ files.map (·.1)) : loadDescriptor fs cwd dir = .ok none := by
  have noFile : ¬fs.isFile cwd (dir.entry Verifier.descriptorFileName) = true := mt (held.isFile_iff fits).mp missing
  unfold loadDescriptor
  simp [noFile]

/-! ## Sets -/

/-- The set that is made of the files of a directory with what the bookkeeping files hold. -/
def ofFiles (dir : Path) (files : List (String × List UInt8)) (version : Version) (descriptor : Option Descriptor)
    (checksums : Option Checksums) : ArtifactSet :=
  { version, dir, artifacts := sorted (artifactsIn dir files), descriptor, checksums }

/-- A directory of files is loaded as the set of its artifacts. -/
theorem load_of_holds (held : Holds fs cwd dir files) (fits : ∀ f ∈ files, Fits dir f.1) {descriptor : Option Descriptor}
    {checksums : Option Checksums} (hasChecksums : loadChecksums fs cwd dir = .ok checksums)
    (hasDescriptor : loadDescriptor fs cwd dir = .ok descriptor) (version : Version) :
    load fs cwd dir version = .ok (ofFiles dir files version descriptor checksums) := by
  unfold load
  rw [held.listed]
  simp only [artifactsOf_of_holds held fits, hasChecksums, hasDescriptor, Except.bind, Except.map, ofFiles]

/-- What is loaded as a set: the artifacts among the entries of the directory, with what its bookkeeping files hold. -/
theorem exists_of_load {version : Version} {s : ArtifactSet} (loaded : load fs cwd dir version = .ok s) :
    ∃ entries artifacts, fs.list cwd dir = .ok entries ∧ artifactsOf fs cwd dir entries = .ok artifacts ∧
      loadChecksums fs cwd dir = .ok s.checksums ∧ loadDescriptor fs cwd dir = .ok s.descriptor ∧
      s = { version, dir, artifacts := sorted artifacts, descriptor := s.descriptor, checksums := s.checksums } := by
  unfold load at loaded
  split at loaded
  next => cases loaded
  next entries listed =>
    obtain ⟨artifacts, found, loaded⟩ := bind_eq_ok_iff.mp loaded
    obtain ⟨checksums, hasChecksums, loaded⟩ := bind_eq_ok_iff.mp loaded
    obtain ⟨descriptor, hasDescriptor, rfl⟩ := map_eq_ok_iff.mp loaded
    exact ⟨entries, artifacts, listed, found, hasChecksums, hasDescriptor, rfl⟩

/-- A set is loaded with the directory that it is in. -/
theorem dir_of_load {version : Version} {s : ArtifactSet} (loaded : load fs cwd dir version = .ok s) : s.dir = dir := by
  obtain ⟨_, _, -, -, -, -, whole⟩ := exists_of_load loaded
  rw [whole]

/-- Checksums that are loaded are what the text of the checksum file records. -/
theorem exists_text_of_loadChecksums {recorded : Checksums} (h : loadChecksums fs cwd dir = .ok (some recorded)) :
    ∃ text, fs.readText cwd (dir.entry Checksums.fileName) = .ok text ∧ recorded = Checksums.parse text := by
  unfold loadChecksums at h
  dsimp only at h
  split at h
  next =>
    split at h
    next text read => exact ⟨text, read, (Option.some.inj (Except.ok.inj h)).symm⟩
    next => cases h
  next => cases h

end ReleaseGate.ArtifactSet
