import ReleaseGate.Channel
import ReleaseGate.Config.Error
import ReleaseGate.Files.OsError
import ReleaseGate.Files.Path
import ReleaseGate.Json.Fault
import ReleaseGate.Process
import ReleaseGate.Text.Quoted
import ReleaseGate.Trigger
import ReleaseGate.Verification
import ReleaseGate.Version

/-!
# Failures of a run

A failure names its cause; the wording is in `message`, and `kind` is the label under which reports and logs list it. All failures
but a publish end the run.
-/

namespace ReleaseGate

/-- Why an input from outside is refused. -/
inductive ConfigurationError where
  | trigger (e : Trigger.Error)
  | config (e : Config.Error)
  deriving DecidableEq, Repr

/-- The wording of a refused input. -/
def ConfigurationError.message : ConfigurationError → String
  | .trigger e => e.message
  | .config e => e.message

/-- Why no version could be resolved. -/
inductive ResolutionError where
  /-- The candidate is no version. -/
  | candidate (e : Version.ParseError)
  /-- The tag is no version. -/
  | tag (name : String) (e : Version.ParseError)
  /-- The derivation tool printed nothing but blank lines. -/
  | noOutput
  | emptyCommand
  | toolUnavailable (program : String) (e : OsError)
  | toolFailed (program : String) (status : ExitStatus) (errorOutput : String)
  /-- Any other failure of a version source, in its own words. -/
  | source (text : String)
  deriving DecidableEq, Repr

namespace ResolutionError

/-- The label of failures to resolve a version. -/
def label : String := "version resolution error: "

/-- The wording of a failure to resolve a version. -/
def message : ResolutionError → String
  | .candidate e => e.message
  | .tag name e => s!"tag {Text.quoted name} is not a valid version: {label}{e.message}"
  | .noOutput => "derivation produced no output"
  | .emptyCommand => "derivation command is empty"
  | .toolUnavailable program e => s!"derivation tool {Text.quoted program} unavailable: {e.message}"
  | .toolFailed program status errorOutput =>
    s!"derivation tool {Text.quoted program} exited with {status.message}: {errorOutput}"
  | .source text => text

end ResolutionError

/-- Why no artifact set was built. -/
inductive BuildError where
  | emptyCommand
  | notStarted (program : String) (e : OsError)
  | commandFailed (program : String) (status : ExitStatus) (errorOutput : String)
  | noArtifacts (dir : Path)
  | readmeUnreadable (readme : Path) (e : OsError)
  /-- Any other failure of a builder, in its own words. -/
  | builder (text : String)
  deriving DecidableEq, Repr

/-- The wording of a failure to build. -/
def BuildError.message : BuildError → String
  | .emptyCommand => "build command is empty"
  | .notStarted program e => s!"failed to start {Text.quoted program}: {e.message}"
  | .commandFailed program status errorOutput => s!"{Text.quoted program} exited with {status.message}: {errorOutput}"
  | .noArtifacts dir => s!"build produced no artifacts in {dir}"
  | .readmeUnreadable readme e => s!"failed to read {readme}: {e.message}"
  | .builder text => text

/-- Why a run, or a step of it, failed. -/
inductive Failure where
  | configuration (e : ConfigurationError)
  | versionResolution (e : ResolutionError)
  | build (e : BuildError)
  | verification (issues : List Issue)
  /-- Publishing to one channel failed. -/
  | publish (channel : Channel) (reason : String)
  /-- A stored record could not be decoded. -/
  | serialization (fault : Json.Fault)
  | io (e : OsError)
  deriving DecidableEq, Repr

namespace Failure

/-- The label of a failure in reports and logs. -/
def kind : Failure → String
  | .configuration _ => "configuration_error"
  | .versionResolution _ => "version_resolution_error"
  | .build _ => "build_error"
  | .verification _ => "verification_error"
  | .publish _ _ => "publish_error"
  | .serialization _ => "serialization_error"
  | .io _ => "io_error"

/-- The wording of a failure. -/
def message : Failure → String
  | .configuration e => s!"configuration error: {e.message}"
  | .versionResolution e => s!"{ResolutionError.label}{e.message}"
  | .build e => s!"build error: {e.message}"
  | .verification issues => failedVerificationText issues
  | .publish channel reason => s!"publish to {channel} failed: {reason}"
  | .serialization fault => s!"serialization error: {fault.message}"
  | .io e => s!"io error: {e.message}"

/-- A failure with its label, as reports show it. -/
def labelled (f : Failure) : String := s!"{f.kind}: {f.message}"

end Failure

end ReleaseGate
