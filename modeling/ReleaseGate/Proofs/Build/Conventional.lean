import ReleaseGate.Builder
import ReleaseGate.Proofs.Naming.Conventional
import ReleaseGate.Proofs.Run.Course
import ReleaseGate.Proofs.Verification.Directories

/-!
# Conventional builds pass

A build whose command leaves nothing but files of conventional names makes a set that passes verification, when the descriptor of
the package is in order. What the builder writes into the directory for this is read back as it was written: the descriptor with
the version as it is spelled, and a line of the checksum file for each artifact.
-/

namespace ReleaseGate.Builder

open FileSystem ArtifactSet Verifier

/-- The descriptor of a package with a long description, for a version. -/
def described (b : Builder) (v : Version) (longDescription : String) : Descriptor :=
  { name := b.package.name, version := v.text, summary := b.package.summary, longDescription
    contentType := b.package.contentType }

/-- Whether a build command leaves a conventional build in the directory of a version: some files of conventional names and
nothing else. No file is empty or too large for its size to be a number of 64 bits, and names and paths are within the limits of
the system. -/
structure LeavesFiles (b : Builder) (v : Version) (cwd : Place) (left : FileSystem) (files : List (String × List UInt8)) :
    Prop where
  held : Holds left cwd (b.outputDir v) files
  inhabited : files ≠ []
  conventional : ∀ f ∈ files, Naming.IsConventional b.package.name.toList v f.1.toList
  sized : ∀ f ∈ files, 0 < f.2.length ∧ f.2.length < UInt64.size
  short : ∀ name ∈ files.map (·.1) ++ [descriptorFileName, Checksums.fileName], IsShort (b.outputDir v) name

variable {b : Builder} {v : Version} {cwd : Place} {left : FileSystem} {files : List (String × List UInt8)}

namespace LeavesFiles

theorem isBookkeeping (h : LeavesFiles b v cwd left files) {f : String × List UInt8} (hf : f ∈ files) :
    ArtifactSet.isBookkeeping f.1 = false := (h.conventional f hf).isBookkeeping

theorem fits (h : LeavesFiles b v cwd left files) : ∀ f ∈ files, Fits (b.outputDir v) f.1 := by
  intro f hf
  exact ⟨(h.conventional f hf).isName, h.short f.1 (List.mem_append_left _ (List.mem_map_of_mem hf))⟩

theorem fits_descriptor (h : LeavesFiles b v cwd left files) : Fits (b.outputDir v) descriptorFileName :=
  ⟨isName_descriptor, h.short _ (by simp)⟩

theorem fits_checksums (h : LeavesFiles b v cwd left files) : Fits (b.outputDir v) Checksums.fileName :=
  ⟨isName_checksums, h.short _ (by simp)⟩

/-- No bookkeeping file is among the files. -/
theorem not_mem (h : LeavesFiles b v cwd left files) {name : String} (known : ArtifactSet.isBookkeeping name = true) :
    name ∉ files.map (·.1) := by
  intro inside
  obtain ⟨f, hf, rfl⟩ := List.mem_map.mp inside
  rw [h.isBookkeeping hf] at known
  cases known

/-- Every file is an artifact. -/
theorem mem_artifactsIn_iff (h : LeavesFiles b v cwd left files) {a : Artifact} :
    a ∈ artifactsIn (b.outputDir v) files ↔ ∃ f ∈ files, a = artifactAt (b.outputDir v) f.1 f.2 := by
  rw [ArtifactSet.mem_artifactsIn_iff]
  constructor
  · rintro ⟨name, bytes, there, -, rfl⟩
    exact ⟨(name, bytes), there, rfl⟩
  · rintro ⟨f, hf, rfl⟩
    exact ⟨f.1, f.2, hf, h.isBookkeeping hf, rfl⟩

theorem artifactsIn_ne_nil (h : LeavesFiles b v cwd left files) : artifactsIn (b.outputDir v) files ≠ [] := by
  obtain ⟨f, hf⟩ := List.exists_mem_of_ne_nil _ h.inhabited
  exact List.ne_nil_of_mem (h.mem_artifactsIn_iff.mpr ⟨f, hf, rfl⟩)

/-- The artifacts carry the version and belong to the package; they are not empty, and can be recorded. -/
theorem of_mem_artifactsIn (h : LeavesFiles b v cwd left files) {a : Artifact} (ha : a ∈ artifactsIn (b.outputDir v) files) :
    Naming.IsConventional b.package.name.toList v a.fileName.toList ∧ 0 < a.size ∧ Checksums.IsRecordable a := by
  obtain ⟨f, hf, rfl⟩ := h.mem_artifactsIn_iff.mp ha
  have conventional := h.conventional f hf
  obtain ⟨filled, small⟩ := h.sized f hf
  refine ⟨conventional, ?_, conventional.isRecordable _ _⟩
  have size : (f.2.length.toUInt64).toNat = f.2.length := UInt64.toNat_ofNat_of_lt small
  show 0 < f.2.length.toUInt64
  rw [UInt64.lt_iff_toNat_lt, size]
  exact filled

end LeavesFiles

/-! ## The bookkeeping files -/

/-- The text of the checksum file for the files of a directory. -/
def checksumText (dir : Path) (files : List (String × List UInt8)) : String := Checksums.print (sorted (artifactsIn dir files))

/-- The files of a directory with the two bookkeeping files that are written for them. -/
def withBookkeeping (dir : Path) (files : List (String × List UInt8)) (d : Descriptor) : List (String × List UInt8) :=
  files ++ [(descriptorFileName, Text.Utf8.encode (descriptorText d))] ++
    [(Checksums.fileName, Text.Utf8.encode (checksumText dir files))]

/-- The set that is made of the files of a directory and their bookkeeping files. -/
def finished (dir : Path) (files : List (String × List UInt8)) (v : Version) (d : Descriptor) : ArtifactSet :=
  ofFiles dir (withBookkeeping dir files d) v (some d) (some (Checksums.parse (checksumText dir files)))

theorem artifactsIn_withBookkeeping (dir : Path) (files : List (String × List UInt8)) (d : Descriptor) :
    artifactsIn dir (withBookkeeping dir files d) = artifactsIn dir files := by
  have descriptorDropped : isBookkeeping descriptorFileName = true := by decide
  have checksumsDropped : isBookkeeping Checksums.fileName = true := by decide
  simp [withBookkeeping, artifactsIn, List.filter_append, descriptorDropped, checksumsDropped]

namespace LeavesFiles

variable (d : Descriptor)

theorem fits_withBookkeeping (h : LeavesFiles b v cwd left files) :
    ∀ f ∈ withBookkeeping (b.outputDir v) files d, Fits (b.outputDir v) f.1 := by
  unfold withBookkeeping
  simp only [List.forall_mem_append, List.forall_mem_singleton]
  exact ⟨⟨h.fits, h.fits_descriptor⟩, h.fits_checksums⟩

/-- The bookkeeping files can be written beside the files. -/
theorem written (h : LeavesFiles b v cwd left files) :
    ∃ fs₁ fs₂, writeDescriptor left cwd (b.outputDir v) d = .ok fs₁ ∧
      writeChecksums fs₁ cwd (b.outputDir v) (sorted (artifactsIn (b.outputDir v) files)) = .ok fs₂ ∧
      Holds fs₂ cwd (b.outputDir v) (withBookkeeping (b.outputDir v) files d) := by
  have noDescriptor : descriptorFileName ∉ files.map (·.1) := h.not_mem (by decide)
  have noChecksums : Checksums.fileName ∉ files.map (·.1) := h.not_mem (by decide)
  obtain ⟨fs₁, wroteDescriptor, held₁⟩ :=
    h.held.writeBytes h.fits_descriptor noDescriptor (Text.Utf8.encode (descriptorText d))
  have noChecksums₁ : Checksums.fileName ∉ (files ++ [(descriptorFileName, Text.Utf8.encode (descriptorText d))]).map (·.1) := by
    have other : Checksums.fileName ≠ descriptorFileName := by decide
    simpa [other] using noChecksums
  obtain ⟨fs₂, wroteChecksums, held₂⟩ :=
    held₁.writeBytes h.fits_checksums noChecksums₁ (Text.Utf8.encode (checksumText (b.outputDir v) files))
  exact ⟨fs₁, fs₂, wroteDescriptor, wroteChecksums, held₂⟩

/-- Before the bookkeeping files are written, the files are loaded without them. -/
theorem produced (h : LeavesFiles b v cwd left files) :
    load left cwd (b.outputDir v) v = .ok (ofFiles (b.outputDir v) files v none none) :=
  load_of_holds h.held h.fits (loadChecksums_of_missing h.held h.fits_checksums (h.not_mem (by decide)))
    (loadDescriptor_of_missing h.held h.fits_descriptor (h.not_mem (by decide))) v

variable {d} {after : FileSystem}

/-- Afterwards they are loaded with them, as they were written. -/
theorem loaded (h : LeavesFiles b v cwd left files)
    (held : Holds after cwd (b.outputDir v) (withBookkeeping (b.outputDir v) files d)) :
    load after cwd (b.outputDir v) v = .ok (finished (b.outputDir v) files v d) := by
  have hasChecksums : loadChecksums after cwd (b.outputDir v) =
      .ok (some (Checksums.parse (checksumText (b.outputDir v) files))) :=
    loadChecksums_of_holds held h.fits_checksums (by simp [withBookkeeping])
  have hasDescriptor : loadDescriptor after cwd (b.outputDir v) = .ok (some d) :=
    loadDescriptor_of_holds held h.fits_descriptor (by simp [withBookkeeping])
  exact load_of_holds held (h.fits_withBookkeeping d) hasChecksums hasDescriptor v

/-- The set that is loaded passes. -/
theorem passes (h : LeavesFiles b v cwd left files)
    (held : Holds after cwd (b.outputDir v) (withBookkeeping (b.outputDir v) files d)) (named : d.name = b.package.name)
    (spelled : d.version = v.text) (filledIn : FilledIn d) (wellMarked : WellMarked d) :
    verify after cwd (finished (b.outputDir v) files v d) = .pass := by
  have same := artifactsIn_withBookkeeping (b.outputDir v) files d
  have text : checksumText (b.outputDir v) files = Checksums.print ([] ++ (finished (b.outputDir v) files v d).artifacts) := by
    unfold checksumText finished ofFiles
    rw [same]
    rfl
  have recordable : ∀ a ∈ [] ++ (finished (b.outputDir v) files v d).artifacts, Checksums.IsRecordable a := by
    intro a ha
    have inside := mem_sorted_iff.mp ha
    rw [same] at inside
    exact (h.of_mem_artifactsIn inside).2.2
  have agrees : Agrees (Checksums.parse (checksumText (b.outputDir v) files)) (finished (b.outputDir v) files v d) := by
    rw [text]
    exact agrees_of_print recordable nofun (nodup_fileNames_of_holds held)
  have parsed : ∃ u, Version.parse d.version = .ok u ∧ u.canonical = v.canonical := ⟨v, by rw [spelled]; exact v.parse_text, rfl⟩
  refine verify_of_holds held (h.fits_withBookkeeping d) ?_ ?_ agrees ?_ ?_ parsed filledIn wellMarked
  · rw [same]
    exact h.artifactsIn_ne_nil
  · rw [same]
    exact fun a ha => (h.of_mem_artifactsIn ha).2.1
  · rw [same]
    exact fun a ha => (h.of_mem_artifactsIn ha).1.carriesVersion
  · rw [same, named]
    exact fun a ha => (h.of_mem_artifactsIn ha).1.belongs

end LeavesFiles

/-! ## The build -/

/-- The files of a conventional build are made a set, and are in the directory afterwards with the bookkeeping files. -/
theorem collect_of_leavesFiles (h : LeavesFiles b v cwd left files) {text : String} (hasText : b.longDescription cwd left = .ok text) :
    ∃ after, b.collect v cwd left = (.ok (finished (b.outputDir v) files v (b.described v text)), after) ∧
      Holds after cwd (b.outputDir v) (withBookkeeping (b.outputDir v) files (b.described v text)) := by
  obtain ⟨fs₁, after, wroteDescriptor, wroteChecksums, held⟩ := h.written (b.described v text)
  have described : b.descriptor v cwd left = .ok (b.described v text) := by
    unfold descriptor
    rw [hasText]
    rfl
  have inhabited : (ofFiles (b.outputDir v) files v none none).isEmpty = false := by
    obtain ⟨a, ha⟩ := List.exists_mem_of_ne_nil _ h.artifactsIn_ne_nil
    have inSorted : a ∈ sorted (artifactsIn (b.outputDir v) files) := mem_sorted_iff.mpr ha
    exact List.isEmpty_eq_false_iff.mpr (List.ne_nil_of_mem inSorted)
  refine ⟨after, ?_, held⟩
  have wrote : writeChecksums fs₁ cwd (b.outputDir v) (ofFiles (b.outputDir v) files v none none).artifacts = .ok after :=
    wroteChecksums
  unfold collect
  simp only [h.produced, inhabited, described, wroteDescriptor]
  rw [wrote]
  simp only [h.loaded held]
  rfl

/-- The set passes. -/
theorem collect_passes (h : LeavesFiles b v cwd left files) {text : String} (hasText : b.longDescription cwd left = .ok text)
    (filledIn : FilledIn (b.described v text)) (wellMarked : WellMarked (b.described v text)) :
    ∃ set after, b.collect v cwd left = (.ok set, after) ∧ verify after cwd set = .pass := by
  obtain ⟨after, collected, held⟩ := collect_of_leavesFiles h hasText
  exact ⟨_, after, collected, h.passes held rfl rfl filledIn wellMarked⟩

/-- A conventional build passes. Whenever the directory of a version can be cleared, and the build command succeeds there and
leaves files of conventional names only, a set is built and passes verification, if the descriptor that comes of the package and its
long description is in order. -/
theorem build_passes (b : Builder) (runner : CommandRunner) (cwd : Place) (environment : Environment) (v : Version)
    {fs cleared left : FileSystem} {program text : String} {arguments : List String} {output errorOutput : List UInt8}
    {files : List (String × List UInt8)} {readme : Path} (clears : b.clear v cwd fs = .ok cleared)
    (command : b.commandFor v = program :: arguments)
    (succeeds : runner cwd { program, arguments, directory := b.directory, environment := b.environmentFor v environment } cleared =
      (.ended (.code 0) output errorOutput, left))
    (leaves : LeavesFiles b v cwd left files) (hasReadme : b.package.readme = some readme)
    (readable : left.readText cwd (b.directory.join readme) = .ok text) (filledIn : FilledIn (b.described v text))
    (wellMarked : WellMarked (b.described v text)) :
    ∃ set after, b.build runner cwd environment v fs = (.ok set, after) ∧ verify after cwd set = .pass := by
  have hasText : b.longDescription cwd left = .ok text := by
    unfold longDescription
    simp only [hasReadme, readable]
    rfl
  obtain ⟨set, after, collected, passed⟩ := collect_passes leaves hasText filledIn wellMarked
  refine ⟨set, after, ?_, passed⟩
  unfold build
  simp only [clear_eq_ok_iff.mp clears, command, succeeds]
  exact collected

end ReleaseGate.Builder

namespace ReleaseGate.Widget

open FileSystem Builder

/-- What builds the widget. -/
def builder : Builder :=
  { command := ["pack"], directory := ⟨"/"⟩, outputRoot := ⟨"dist"⟩, versionVariable := "WIDGET_VERSION"
    package := { name := "widget", summary := "A widget", readme := some ⟨"README.txt"⟩, contentType := "text/plain" } }

/-- The long description of the widget. -/
def readmeText : String := "A widget."

/-- The files before the build. -/
def tree : FileSystem := ⟨[(["README.txt"], .file (Text.Utf8.encode readmeText) true), (["dist"], .directory)]⟩

/-- The files when the build command starts. -/
def cleared : FileSystem := tree.put ["dist", "v1.2.0"] .directory

/-- The files when it has succeeded. -/
def packed : FileSystem := cleared.put ["dist", "v1.2.0", fileName] (.file bytes true)

theorem outputDir_eq : builder.outputDir version = Path.entry ⟨"/dist"⟩ "v1.2.0" := by decide

theorem leadsTo_dist : LeadsTo tree [] ⟨"/dist"⟩ ["dist"] := by
  have steps : Path.steps ⟨"/dist"⟩ = ["dist"] := by decide
  refine ⟨by decide, by decide, by decide, ⟨maxLinks, ?_⟩, rfl⟩
  rw [steps]
  exact .down (by decide) (by decide) rfl (.here _ _)

theorem fits_version : Fits ⟨"/dist"⟩ "v1.2.0" := by
  refine ⟨⟨?_, ?_, ?_, ?_, ?_⟩, ⟨?_, ?_⟩⟩ <;> decide

theorem removeOutput_tree : builder.removeOutput version [] tree = .ok tree := by
  have missing : tree.node? ["dist", "v1.2.0"] = none := rfl
  have nothing : tree.isThere [] (Path.entry ⟨"/dist"⟩ "v1.2.0") = false := by
    unfold isThere find
    rw [leadsTo_dist.resolve_entry fits_version (.inl missing)]
    rfl
  unfold removeOutput
  simp [outputDir_eq, nothing]

theorem attemptDirectories_tree : tree.attemptDirectories [] (builder.outputDir version) = (.ok (), cleared) := by
  have made : tree.makeDirectory [] (Path.entry ⟨"/dist"⟩ "v1.2.0") = .ok cleared :=
    leadsTo_dist.makeDirectory fits_version rfl
  have named : (Path.entry ⟨"/dist"⟩ "v1.2.0").text.isEmpty = false := by decide
  unfold attemptDirectories makeDirectoriesUpTo
  simp [outputDir_eq, named, made]

/-- Nothing is there for the version, so its directory is made. -/
theorem clear_tree : builder.clear version [] tree = .ok cleared := by
  rw [clear_eq_ok_iff, renew, removeOutput_tree]
  exact attemptDirectories_tree

/-- The output directory is where its path says, if it is there. -/
theorem leadsTo_output {files : FileSystem} (root : files.node? ["dist"] = some .directory)
    (there : files.node? ["dist", "v1.2.0"] = some .directory) :
    LeadsTo files [] (builder.outputDir version) ["dist", "v1.2.0"] := by
  have steps : Path.steps (builder.outputDir version) = ["dist", "v1.2.0"] := by decide
  have absolute : (builder.outputDir version).isAbsolute = true := by decide
  refine ⟨by decide, by decide, by decide, ⟨maxLinks, ?_⟩, there⟩
  rw [steps, absolute]
  exact .down (by decide) (by decide) root (.down (by decide) (by decide) there (.here _ _))

/-- One file of a conventional name is a conventional build of the widget. -/
theorem leavesFiles {b : Builder} {left : FileSystem} (widget : b.package = builder.package)
    (held : Holds left [] (b.outputDir version) [(fileName, bytes)])
    (short : ∀ name ∈ [fileName, Verifier.descriptorFileName, Checksums.fileName], name.utf8ByteSize ≤ maxNameBytes ∧
      ((b.outputDir version).entry name).text.utf8ByteSize ≤ maxPathBytes) :
    LeavesFiles b version [] left [(fileName, bytes)] := by
  refine ⟨held, by simp, ?_, ?_, fun name hn => ⟨(short name hn).1, (short name hn).2⟩⟩
  · simp only [List.forall_mem_singleton, widget]
    refine ⟨"widget".toList, ".tar.gz".toList, ?_, List.all_eq_true.mp ?_, rfl, .archive (by decide)⟩
    · rw [canonical_version]
      decide
    · decide
  · simp only [List.forall_mem_singleton]
    decide

/-- The build command leaves one file of a conventional name. -/
theorem leavesFiles_packed : LeavesFiles builder version [] packed [(fileName, bytes)] :=
  leavesFiles rfl ⟨(leadsTo_output rfl rfl).list, by simp⟩ (by decide)

theorem readText_readme {files : FileSystem} (there : files.node? ["README.txt"] = some (.file (Text.Utf8.encode readmeText) true)) :
    files.readText [] (builder.directory.join ⟨"README.txt"⟩) = .ok readmeText := by
  have read : files.readBytes [] (builder.directory.join ⟨"README.txt"⟩) = .ok (Text.Utf8.encode readmeText) :=
    readBytes_of_step "README.txt" (by decide) (by decide) there
  unfold readText
  rw [read]
  simp [Except.bind]

theorem longDescription_eq {files : FileSystem}
    (there : files.node? ["README.txt"] = some (.file (Text.Utf8.encode readmeText) true)) :
    builder.longDescription [] files = .ok readmeText := by
  have hasReadme : builder.package.readme = some ⟨"README.txt"⟩ := rfl
  unfold longDescription
  simp only [hasReadme, readText_readme there]
  rfl

theorem hasMediaType_described : Verifier.HasMediaType (builder.described version readmeText) "text/plain" :=
  Verifier.hasMediaType_iff.mpr (by decide)

theorem filledIn_described : Verifier.FilledIn (builder.described version readmeText) where
  name := Text.Pattern.accepts_iff.mp (by decide)
  summary := (Text.isBlankText_eq_false_iff _).mp (by decide)
  oneLine := by decide
  longDescription := (Text.isBlankText_eq_false_iff _).mp (by decide)
  contentType := ⟨"text/plain", by simp, hasMediaType_described⟩

theorem wellMarked_described : Verifier.WellMarked (builder.described version readmeText) :=
  Verifier.wellMarked_of_plain hasMediaType_described

/-- The widget is built, and passes. -/
theorem build_passes_widget :
    ∃ set after, builder.build (fun _ _ files => (.ended (.code 0) [] [], files.put ["dist", "v1.2.0", fileName] (.file bytes true)))
        [] [] version tree = (.ok set, after) ∧ Verifier.verify after [] set = .pass := by
  exact build_passes builder _ [] [] version clear_tree rfl rfl leavesFiles_packed rfl (readText_readme rfl) filledIn_described
    wellMarked_described

end ReleaseGate.Widget
