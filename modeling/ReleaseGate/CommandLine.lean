import ReleaseGate.Artifact.Store
import ReleaseGate.CommandLine.Arguments
import ReleaseGate.CommandLine.Complaint
import ReleaseGate.Config.Pipeline
import ReleaseGate.Config.Reader
import ReleaseGate.Report.Store

/-!
# The command line

`run` makes a promotion run; `classify`, `version` and `verify` show in advance what a run would make of a trigger or of a
directory. A command has an exit status and two streams of output, and changes the files of the machine only as the run that it
makes does.
-/

namespace ReleaseGate.CommandLine

/-- What commands work on. -/
structure Machine where
  files : FileSystem
  now : Timestamp

/-- The files of a machine. -/
def Machine.fileSystem : Stepwise.Part Machine FileSystem := ⟨Machine.files, fun m files => { m with files }⟩

/-- What comes of a command. -/
structure Result where
  status : UInt32
  output : String := ""
  errorOutput : String := ""
  deriving DecidableEq, Repr

/-- The result of a command that prints something and succeeds, or complains and fails. -/
def Result.of (output : String) : Option Complaint → Result
  | none => { status := 0, output }
  | some c => { status := 1, output, errorOutput := c.text }

/-- The result of a command that only complains. -/
def Result.failed (c : Complaint) : Result := .of "" (some c)

/-- The configuration in a file. -/
def loadConfig (fs : FileSystem) (cwd : Place) (path : Path) : Except Complaint Config :=
  (Config.load fs cwd path).mapError fun e => .because s!"Failed to load {path}" (.configuration (.config e))

/-- The context of a trigger. -/
def classified (t : Trigger) : Except Complaint RunContext :=
  t.classify.mapError fun e => .because "Failed to classify trigger" (.configuration (.trigger e))

/-- What `classify` shows: the context, and what the gate decides if verification passes. -/
def preview (context : RunContext) (ifVerified : Decision) : String :=
  (Json.object [("context", Codec.ofContext context), ("if_verified", Codec.ofDecision ifVerified)]).pretty ++ "\n"

/-- Shows how a trigger is classified and what it is eligible for. -/
def classify (w : Surroundings Machine) (config : Path) (t : Trigger) (m : Machine) : Result :=
  match loadConfig m.files w.cwd config, classified t with
  | .error c, _ => .failed c
  | .ok _, .error c => .failed c
  | .ok cfg, .ok context => .of (preview context (cfg.gatePolicy.decision context .pass)) none

/-- Shows the version of a run with a trigger. -/
def version (w : Surroundings Machine) (config : Path) (t : Trigger) (m : Machine) : Result × Machine :=
  match loadConfig m.files w.cwd config, classified t with
  | .error c, _ => (.failed c, m)
  | .ok _, .error c => (.failed c, m)
  | .ok cfg, .ok context =>
    match Resolver.resolve (w.onFiles (cfg.source.derive w.commands w.cwd w.environment)) context m with
    | (.ok v, m) => (.of (v.text ++ "\n") none, m)
    | (.error e, m) => (.failed (.because "Failed to resolve version" e), m)

/-- What `verify` shows about a verdict on a set. -/
def verdictResult (artifactCount : Nat) : Verdict → Result
  | .pass => .of s!"✓ {artifactCount} artifact(s) verified\n" none
  | .fail issues =>
    .of (String.join (issues.map fun i => s!"✗ {i.line}\n"))
      (some { what := s!"Verification failed with {issues.length} issue(s)" })

/-- Verifies a directory of artifacts. -/
def verify (w : Surroundings Machine) (dir : Path) (version : String) (m : Machine) : Result :=
  match Version.parse version with
  | .error e => .failed (.because "Invalid version" (.versionResolution (.candidate e)))
  | .ok v =>
    match ArtifactSet.load m.files w.cwd dir v with
    | .error e => .failed (.because s!"Failed to read artifacts in {dir}" e)
    | .ok found => verdictResult found.artifacts.length (Verifier.verify m.files w.cwd found)

/-- Writes something to a file, if one is given. -/
def writeTo (file : Option Path) (write : FileSystem → Path → Except OsError FileSystem) (m : Machine) :
    Except Complaint Machine :=
  match file with
  | none => .ok m
  | some path =>
    match write m.files path with
    | .ok files => .ok { m with files }
    | .error e => .error (.because s!"Failed to write {path}" (.io e))

/-- Why a run did not succeed, as the last word of the command. -/
def runComplaint (r : RunReport) : Option Complaint :=
  r.failureReason?.map fun reason => { what := s!"Promotion run failed: {reason}" }

/-- Writes down a run that was made: its report, its summary, and the summary once more as output. -/
def conclude (w : Surroundings Machine) (reportJson summaryMd : Option Path) (r : RunReport) (m : Machine) : Result × Machine :=
  match writeTo reportJson (fun fs path => r.write fs w.cwd path) m with
  | .error c => (.failed c, m)
  | .ok m =>
    match writeTo summaryMd (fun fs path => r.appendSummary fs w.cwd path) m with
    | .error c => (.failed c, m)
    | .ok m => (.of (r.summary ++ "\n") (runComplaint r), m)

/-- Makes a run. -/
def run (w : Surroundings Machine) (id : RunId) (config : Path) (t : Trigger) (reportJson summaryMd : Option Path) (m : Machine) :
    Result × Machine :=
  match loadConfig m.files w.cwd config with
  | .error c => (.failed c, m)
  | .ok cfg =>
    match cfg.pipeline w with
    | .error e => (.failed { what := e.message }, m)
    | .ok pipeline =>
      let (progress, m) := pipeline.run id t m
      conclude w reportJson summaryMd progress.report m

/-- How the program is used. -/
def usage : String :=
  "Release promotion controller\n\nUsage: shipgate [OPTIONS] <COMMAND>\n\nCommands:\n" ++
    "  run       Run the full promotion pipeline\n  classify  Classify the trigger and show its eligibility\n" ++
    "  version   Resolve the version for the trigger\n  verify    Verify an existing artifact directory\n"

/-- The version of the program. -/
def programVersion : String := "shipgate 0.1.0"

/-- The result for arguments that are not understood. -/
def misuse : Result := { status := 2, errorOutput := "error: the arguments are not understood\n\n" ++ usage }

/-- Does what the arguments ask for. -/
def execute (w : Surroundings Machine) (id : RunId) (arguments : List String) (m : Machine) : Result × Machine :=
  match parse? w.environment arguments with
  | none => (misuse, m)
  | some (config, .run t reportJson summaryMd) => run w id config t reportJson summaryMd m
  | some (config, .classify t) => (classify w config t m, m)
  | some (config, .version t) => version w config t m
  | some (_, .verify dir v) => (verify w dir v m, m)
  | some (_, .showHelp) => (.of usage none, m)
  | some (_, .showVersion) => (.of (programVersion ++ "\n") none, m)

end ReleaseGate.CommandLine
