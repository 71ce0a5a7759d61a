import ReleaseGate.Artifact.Store
import ReleaseGate.Process

/-!
# Building artifacts

The packager is an external command. It is told the resolved version in a variable, so that the metadata it embeds agrees with
the decision of the run, and the directory for its output; that directory belongs to the version and is made anew for every
build. What the command leaves there becomes the artifact set, together with the descriptor and the checksums.
-/

namespace ReleaseGate

/-- What the descriptor of a package is made of. -/
structure PackageMetadata where
  name : String
  summary : String
  /-- The file with the long description, read from the working directory. -/
  readme : Option Path
  contentType : String
  deriving DecidableEq, Repr

/-- A build command and what it runs with. -/
structure Builder where
  command : List String
  directory : Path
  outputRoot : Path
  /-- The variable that tells the command the version. -/
  versionVariable : String
  package : PackageMetadata
  deriving DecidableEq, Repr

namespace Builder

/-- The variable that tells the command where to put its output. -/
def outputVariable : String := "SHIPGATE_OUTPUT_DIR"

/-- What stands for the output directory in an argument. -/
def outputPlaceholder : String := "\x7bout_dir\x7d"

/-- What stands for the version in an argument. -/
def versionPlaceholder : String := "\x7bversion\x7d"

/-- The directory for the output of all versions. -/
def root (b : Builder) : Path := b.directory.join b.outputRoot

/-- The directory for the output of one version. -/
def outputDir (b : Builder) (v : Version) : Path := b.root.join ⟨v.text⟩

/-- The command for one version, with the placeholders filled in: the directory first, and then the version. -/
def commandFor (b : Builder) (v : Version) : List String :=
  b.command.map fun argument =>
    Text.replaced versionPlaceholder v.text (Text.replaced outputPlaceholder (b.outputDir v).text argument)

/-- The variables that the command sees. -/
def environmentFor (b : Builder) (v : Version) (environment : Environment) : Environment :=
  (outputVariable, (b.outputDir v).text) :: (b.versionVariable, v.text) :: environment

/-- The file system without the output directory of a version, if there is one. -/
def removeOutput (b : Builder) (v : Version) (cwd : Place) (fs : FileSystem) : Except OsError FileSystem :=
  let dir := b.outputDir v
  if fs.isThere cwd dir then fs.removeDirectory cwd dir else .ok fs

/-- Makes the output directory of a version anew. What was done stays when something fails. -/
def renew (b : Builder) (v : Version) (cwd : Place) (fs : FileSystem) : Except OsError Unit × FileSystem :=
  match b.removeOutput v cwd fs with
  | .error e => (.error e, fs)
  | .ok fs => fs.attemptDirectories cwd (b.outputDir v)

/-- The file system with an empty output directory for a version. -/
def clear (b : Builder) (v : Version) (cwd : Place) (fs : FileSystem) : Except OsError FileSystem :=
  match b.renew v cwd fs with
  | (.ok (), fs) => .ok fs
  | (.error e, _) => .error e

theorem clear_eq_ok_iff {b : Builder} {v : Version} {cwd : Place} {fs cleared : FileSystem} :
    b.clear v cwd fs = .ok cleared ↔ b.renew v cwd fs = (.ok (), cleared) := by
  unfold clear
  split
  next same => simp [same]
  next same => simp [same]

/-- The number of lines of the error output that are kept. -/
def keptLines : Nat := 20

/-- The last lines of an error output. -/
def tail (errorOutput : String) : String :=
  let lines := Text.lines (Text.trimEnd errorOutput.toList)
  String.ofList (Text.joinWith ['\n'] (lines.drop (lines.length - keptLines)))

/-- What is wrong with how a command ended. -/
def faultOf (program : String) : CommandResult → Except BuildError Unit
  | .notStarted e => .error (.notStarted program e)
  | .ended status _ errorOutput =>
    if status.isSuccess then .ok ()
    else .error (.commandFailed program status (tail (Text.Utf8.decodeLossy errorOutput)))

/-- The long description of the package. -/
def longDescription (b : Builder) (cwd : Place) (fs : FileSystem) : Except BuildError String :=
  match b.package.readme with
  | none => .ok ""
  | some readme => (fs.readText cwd (b.directory.join readme)).mapError (.readmeUnreadable readme)

/-- The descriptor of the package for a version. -/
def descriptor (b : Builder) (v : Version) (cwd : Place) (fs : FileSystem) : Except BuildError Descriptor :=
  (b.longDescription cwd fs).map fun longDescription =>
    { name := b.package.name, version := v.text, summary := b.package.summary, longDescription,
      contentType := b.package.contentType }

/-- Makes a set of what the command left in the output directory: at least one artifact, the descriptor and the checksums. -/
def collect (b : Builder) (v : Version) (cwd : Place) (fs : FileSystem) : Except Failure ArtifactSet × FileSystem :=
  let dir := b.outputDir v
  match ArtifactSet.load fs cwd dir v with
  | .error e => (.error e, fs)
  | .ok produced =>
    if produced.isEmpty then (.error (.build (.noArtifacts dir)), fs)
    else
      match b.descriptor v cwd fs with
      | .error e => (.error (.build e), fs)
      | .ok d =>
        match ArtifactSet.writeDescriptor fs cwd dir d with
        | .error e => (.error (.io e), fs)
        | .ok fs =>
          match ArtifactSet.writeChecksums fs cwd dir produced.artifacts with
          | .error e => (.error (.io e), fs)
          | .ok fs => (ArtifactSet.load fs cwd dir v, fs)

/-- Builds the artifacts of a version. -/
def build (b : Builder) (runner : CommandRunner) (cwd : Place) (environment : Environment) (v : Version) (fs : FileSystem) :
    Except Failure ArtifactSet × FileSystem :=
  match b.renew v cwd fs with
  | (.error e, fs) => (.error (.io e), fs)
  | (.ok (), fs) =>
    match b.commandFor v with
    | [] => (.error (.build .emptyCommand), fs)
    | program :: arguments =>
      let (result, fs) :=
        runner cwd { program, arguments, directory := b.directory, environment := b.environmentFor v environment } fs
      match faultOf program result with
      | .error e => (.error (.build e), fs)
      | .ok () => b.collect v cwd fs

end Builder

end ReleaseGate
