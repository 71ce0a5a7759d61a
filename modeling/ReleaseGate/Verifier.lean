import ReleaseGate.Artifact.Checksums
import ReleaseGate.Artifact.Digest
import ReleaseGate.Verifier.Fences
import ReleaseGate.Verifier.Naming
import ReleaseGate.Verifier.Titles

/-!
# Verification of artifact sets

An artifact set is checked against the files, its own bookkeeping and the rules of the registries before anything is published.
Each family of checks looks at the set by itself, and every finding counts: `verify` passes exactly when no family found
anything.
-/

namespace ReleaseGate.Verifier

open Text

/-- The name of the descriptor file. -/
def descriptorFileName : String := "descriptor.json"

/-- The findings on one file of a set: it is empty, it changed, or it cannot be read. -/
def fileIssues (fs : FileSystem) (cwd : Place) (a : Artifact) : List Issue :=
  (if a.size == 0 then [⟨.contents, a.fileName, "file is empty"⟩] else [])
    ++
    match digestOf fs cwd a.path with
    | .ok digest =>
      if digest == a.sha256 then [] else [⟨.contents, a.fileName, "file changed after the set was produced"⟩]
    | .error e => [⟨.contents, a.fileName, s!"file is unreadable: {e.message}"⟩]

/-- The findings on the files of a set. -/
def contentsIssues (fs : FileSystem) (cwd : Place) (s : ArtifactSet) : List Issue :=
  if s.isEmpty then [⟨.contents, s.dir.text, "artifact set is empty"⟩]
  else s.artifacts.flatMap (fileIssues fs cwd)

/-- The finding on the recorded digest of one file. -/
def recordIssues (recorded : Checksums) (a : Artifact) : List Issue :=
  match recorded.digest? a.fileName with
  | none => [⟨.checksums, a.fileName, s!"not listed in {Checksums.fileName}"⟩]
  | some digest =>
    if digest == a.sha256 then []
    else [⟨.checksums, a.fileName, s!"checksum mismatch: recorded {digest}, actual {a.sha256}"⟩]

/-- The findings on the recorded checksums of a set. -/
def checksumIssues (s : ArtifactSet) : List Issue :=
  match s.checksums with
  | none => [⟨.checksums, Checksums.fileName, "checksum file is missing"⟩]
  | some recorded =>
    recorded.malformed.map (fun line => ⟨.checksums, Checksums.fileName, s!"malformed line: {quoted line}"⟩)
      ++ s.artifacts.flatMap (recordIssues recorded)
      ++ (recorded.names.filter fun name => !s.artifacts.any (·.fileName == name)).map fun name =>
        ⟨.checksums, name, s!"listed in {Checksums.fileName} but not present"⟩

/-- The findings on the name of one file: it does not carry the version, or it belongs to another package. -/
def nameIssues (canonical : String) (package : Option (List Char)) (a : Artifact) : List Issue :=
  (if Naming.carriesVersion a.fileName.toList canonical.toList then []
    else [⟨.attribution, a.fileName, s!"file name does not carry version {canonical}"⟩])
    ++
    match package with
    | some package =>
      if package.isPrefixOf (Naming.normalizeName a.fileName.toList) then []
      else [⟨.attribution, a.fileName, s!"file name does not belong to package {String.ofList package}"⟩]
    | none => []

/-- Whether a text spells a version with the given canonical form. -/
def spellsVersion (text canonical : String) : Bool :=
  match Version.parse text with
  | .ok v => v.canonical == canonical
  | .error _ => false

/-- The findings on the version and the package that a set claims to be of. -/
def attributionIssues (s : ArtifactSet) : List Issue :=
  let canonical := s.version.canonical
  s.artifacts.flatMap (nameIssues canonical (s.descriptor.map fun d => Naming.normalizeName d.name.toList))
    ++
    match s.descriptor with
    | some d =>
      if spellsVersion d.version canonical then []
      else [⟨.attribution, "version", s!"descriptor version {quoted d.version} does not match set version {s.version}"⟩]
    | none => []

/-- The content types of long descriptions that registries render. -/
def knownContentTypes : List String := ["text/plain", "text/markdown", "text/x-rst"]

/-- The media type of a long description, without its parameters. -/
def mediaType (d : Descriptor) : String :=
  match fields ';' d.contentType.toList with
  | first :: _ => String.ofList (trim first)
  | [] => ""

/-- The finding on the name of a package. -/
def packageNameIssues (d : Descriptor) : List Issue :=
  if isBlankText d.name then [⟨.descriptor, "name", "is empty"⟩]
  else if !Naming.projectName.accepts d.name.toList then
    [⟨.descriptor, "name", s!"{quoted d.name} is not a valid project name"⟩]
  else []

/-- The finding on the summary of a package. -/
def summaryIssues (d : Descriptor) : List Issue :=
  if isBlankText d.summary then [⟨.descriptor, "summary", "is empty"⟩]
  else if d.summary.toList.contains '\n' then [⟨.descriptor, "summary", "must be a single line"⟩]
  else []

/-- The finding on the long description of a package. -/
def longDescriptionIssues (d : Descriptor) : List Issue :=
  if isBlankText d.longDescription then [⟨.descriptor, "long_description", "is empty"⟩] else []

/-- The finding on the content type of the long description. -/
def contentTypeIssues (d : Descriptor) : List Issue :=
  if knownContentTypes.contains (mediaType d) then []
  else
    let known := joinText ", " knownContentTypes
    [⟨.descriptor, "long_description_content_type", s!"{quoted d.contentType} is not one of {known}"⟩]

/-- The findings on the descriptor of a set. -/
def descriptorIssues (s : ArtifactSet) : List Issue :=
  match s.descriptor with
  | some d => packageNameIssues d ++ summaryIssues d ++ longDescriptionIssues d ++ contentTypeIssues d
  | none => [⟨.descriptor, descriptorFileName, "package descriptor is missing"⟩]

/-- What is wrong with a long description of a media type; a type without rules has no faults. -/
def markupProblems (mediaType : String) (text : List Char) : List String :=
  match mediaType with
  | "text/markdown" => Markdown.problems text
  | "text/x-rst" => Restructured.problems text
  | _ => []

/-- The findings on the markup of the long description. -/
def markupIssues (s : ArtifactSet) : List Issue :=
  match s.descriptor with
  | some d => (markupProblems (mediaType d) d.longDescription.toList).map fun p => ⟨.markup, "long_description", p⟩
  | none => []

/-- All findings on a set, family by family. -/
def issues (fs : FileSystem) (cwd : Place) (s : ArtifactSet) : List Issue :=
  contentsIssues fs cwd s ++ checksumIssues s ++ attributionIssues s ++ descriptorIssues s ++ markupIssues s

/-- The verdict on a set, given the files as they are now. -/
def verify (fs : FileSystem) (cwd : Place) (s : ArtifactSet) : Verdict := Verdict.ofIssues (issues fs cwd s)

end ReleaseGate.Verifier
