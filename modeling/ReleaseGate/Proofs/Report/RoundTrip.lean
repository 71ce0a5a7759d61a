import ReleaseGate.Proofs.Artifact.Loading
import ReleaseGate.Proofs.Codec.Report
import ReleaseGate.Proofs.Files.Writing
import ReleaseGate.Proofs.Run.Course
import ReleaseGate.Report.Store

/-!
# Stored records survive

A report that is written to a file is read from it as the same report, and a descriptor that is written into a directory is loaded
with the artifacts of the directory as the same descriptor (`stored_survive`). Nothing is assumed of what they hold; of the file
system only that it is a tree, and of the file that a file which was there before can be read.
-/

namespace ReleaseGate

open FileSystem Text

variable {fs fs' : FileSystem} {cwd : Place}

/-- The text of a report is read from the file to which it is written. -/
theorem RunReport.readText_of_write {r : RunReport} {path : Path} (tree : IsTree fs) (inside : fs.node? cwd = some .directory)
    (wrote : r.write fs cwd path = .ok fs') (permitted : fs.readBytes cwd path ≠ .error .permissionDenied) :
    fs'.readText cwd path = .ok (Codec.reportText r) := by
  obtain ⟨-, read⟩ := readBytes_of_writeBytes tree inside wrote permitted
  unfold readText
  rw [read]
  simp [Except.bind]

namespace ArtifactSet

/-- A descriptor is loaded from the directory into which it is written. -/
theorem loadDescriptor_of_writeDescriptor {d : Descriptor} {dir : Path} (tree : IsTree fs)
    (inside : fs.node? cwd = some .directory) (wrote : writeDescriptor fs cwd dir d = .ok fs')
    (permitted : fs.readBytes cwd (dir.entry Verifier.descriptorFileName) ≠ .error .permissionDenied) :
    loadDescriptor fs' cwd dir = .ok (some d) := by
  obtain ⟨isFile, read⟩ := readBytes_of_writeBytes tree inside wrote permitted
  unfold loadDescriptor
  simp [isFile, read, decodeDescriptor_descriptorText, Except.map]

/-- A set is loaded with the descriptor of its directory, when the rest of the directory can be loaded. -/
theorem load_of_loadDescriptor {dir : Path} {descriptor : Option Descriptor} (found : loadDescriptor fs cwd dir = .ok descriptor)
    (version : Version) {entries : List (String × Node)} {artifacts : List Artifact} {checksums : Option Checksums}
    (listed : fs.list cwd dir = .ok entries) (digested : artifactsOf fs cwd dir entries = .ok artifacts)
    (recorded : loadChecksums fs cwd dir = .ok checksums) :
    load fs cwd dir version = .ok { version, dir, artifacts := sorted artifacts, descriptor, checksums } := by
  unfold load
  rw [listed]
  simp only [digested, recorded, found, Except.bind, Except.map]

end ArtifactSet

/-- Stored records survive. A report is read from its text, and from the file to which it was written. A descriptor that was written
into a directory is that of every set that is loaded from it, and a set is loaded whenever the directory can be listed, its
artifacts digested, and its checksum file read. -/
theorem stored_survive (tree : IsTree fs) (inside : fs.node? cwd = some .directory) (r : RunReport) (d : Descriptor) :
    (Json.parse? (Codec.reportText r)).bind Codec.report? = some r ∧
      (∀ path fs', r.write fs cwd path = .ok fs' → fs.readBytes cwd path ≠ .error .permissionDenied →
        ∃ text, fs'.readText cwd path = .ok text ∧ (Json.parse? text).bind Codec.report? = some r) ∧
      ∀ dir fs', ArtifactSet.writeDescriptor fs cwd dir d = .ok fs' →
        fs.readBytes cwd (dir.entry Verifier.descriptorFileName) ≠ .error .permissionDenied →
        ∀ version,
          (∀ s, ArtifactSet.load fs' cwd dir version = .ok s → s.descriptor = some d) ∧
            ∀ entries artifacts checksums, fs'.list cwd dir = .ok entries →
              ArtifactSet.artifactsOf fs' cwd dir entries = .ok artifacts →
              ArtifactSet.loadChecksums fs' cwd dir = .ok checksums →
              ArtifactSet.load fs' cwd dir version =
                .ok { version, dir, artifacts := ArtifactSet.sorted artifacts, descriptor := some d, checksums } := by
  refine ⟨Codec.report?_reportText r, fun path fs' wrote permitted => ?_, fun dir fs' wrote permitted version => ?_⟩
  · exact ⟨_, RunReport.readText_of_write tree inside wrote permitted, Codec.report?_reportText r⟩
  · have found := ArtifactSet.loadDescriptor_of_writeDescriptor tree inside wrote permitted
    refine ⟨fun s loaded => ?_, fun entries artifacts checksums listed digested recorded => ?_⟩
    · obtain ⟨-, -, -, -, -, same, -⟩ := ArtifactSet.exists_of_load loaded
      exact Except.ok.inj (same.symm.trans found)
    · exact ArtifactSet.load_of_loadDescriptor found version listed digested recorded

namespace Widget

/-- The report of a run whose verification failed. -/
def failedReport : RunReport :=
  let issue : Issue := { family := .checksums, subject := fileName, detail := "checksum mismatch" }
  { RunReport.start runId .epoch with
    finishedAt := some .epoch, context := some context, version := some version, artifacts := [archive]
    verdict := some (.fail [issue]), decision := some (.noPublish (.verificationFailed [issue]))
    tasks := [⟨.classify, .succeeded, 3⟩, ⟨.stagingPublish, .skipped "verification failed", 0⟩] }

/-- Nothing but the root. -/
def nothing : FileSystem := ofRoot []

theorem holds_nothing : Holds nothing [] ⟨"/"⟩ [] := by
  have root : LeadsTo nothing [] ⟨"/"⟩ [] := by
    have steps : Path.steps ⟨"/"⟩ = [] := by decide
    refine ⟨by decide, by decide, by decide, ⟨maxLinks, ?_⟩, rfl⟩
    rw [steps]
    exact .here _ _
  exact ⟨root.list, .nil⟩

/-- No file is there that could not be read. -/
theorem readBytes_nothing {name : String} (fits : Fits ⟨"/"⟩ name) :
    nothing.readBytes [] (Path.entry ⟨"/"⟩ name) ≠ .error .permissionDenied := by
  rcases holds_nothing.find_entry fits with ⟨_, _, looked, -⟩ | ⟨-, notFound⟩
  · cases looked
  · unfold readBytes
    rw [notFound]
    nofun

/-- The report and the descriptor are written where nothing was, and are read again. -/
theorem stored_survive_failedReport :
    (∃ fs' text, failedReport.write nothing [] (Path.entry ⟨"/"⟩ "report.json") = .ok fs' ∧
      fs'.readText [] (Path.entry ⟨"/"⟩ "report.json") = .ok text ∧ (Json.parse? text).bind Codec.report? = some failedReport) ∧
    ∃ fs' s, ArtifactSet.writeDescriptor nothing [] ⟨"/"⟩ descriptor = .ok fs' ∧
      ArtifactSet.load fs' [] ⟨"/"⟩ version = .ok s ∧ s.descriptor = some descriptor := by
  have tree : IsTree nothing := isTree_ofRoot []
  have root : nothing.node? [] = some .directory := rfl
  obtain ⟨-, reports, descriptors⟩ := stored_survive tree root failedReport descriptor
  have fitsReport : Fits ⟨"/"⟩ "report.json" := by
    refine ⟨⟨?_, ?_, ?_, ?_, ?_⟩, ⟨?_, ?_⟩⟩ <;> decide
  have fitsDescriptor : Fits ⟨"/"⟩ Verifier.descriptorFileName := ⟨ArtifactSet.isName_descriptor, by decide, by decide⟩
  have fitsChecksums : Fits ⟨"/"⟩ Checksums.fileName := ⟨ArtifactSet.isName_checksums, by decide, by decide⟩
  constructor
  · obtain ⟨fs', wrote, -⟩ := holds_nothing.writeBytes fitsReport nofun (Utf8.encode (Codec.reportText failedReport))
    obtain ⟨text, read, same⟩ := reports _ fs' wrote (readBytes_nothing fitsReport)
    exact ⟨fs', text, wrote, read, same⟩
  · obtain ⟨fs', wrote, held⟩ :=
      holds_nothing.writeBytes fitsDescriptor nofun (Utf8.encode (ArtifactSet.descriptorText descriptor))
    rw [List.nil_append] at held
    have fits : ∀ f ∈ [(Verifier.descriptorFileName, Utf8.encode (ArtifactSet.descriptorText descriptor))], Fits ⟨"/"⟩ f.1 :=
      List.forall_mem_singleton.mpr fitsDescriptor
    have loaded := ArtifactSet.load_of_holds held fits
      (ArtifactSet.loadChecksums_of_missing held fitsChecksums (by decide))
      (ArtifactSet.loadDescriptor_of_holds held fitsDescriptor List.mem_cons_self) version
    exact ⟨fs', _, wrote, loaded, (descriptors ⟨"/"⟩ fs' wrote (readBytes_nothing fitsDescriptor) version).1 _ loaded⟩

end Widget

end ReleaseGate
