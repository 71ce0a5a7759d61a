import ReleaseGate.Artifact
import ReleaseGate.Context
import ReleaseGate.Report.Task
import ReleaseGate.RunId
import ReleaseGate.Text.Lines
import ReleaseGate.Timestamp

/-!
# Run reports

There is one report for each run. It tells a channel that was never attempted from one that failed. A run succeeded when nothing
ended it, verification passed, and no channel and no task failed; `failureReason?` names what did.
-/

namespace ReleaseGate

/-- The record of one run. -/
structure RunReport where
  schemaVersion : String
  runId : RunId
  startedAt : Timestamp
  finishedAt : Option Timestamp
  context : Option RunContext
  version : Option Version
  artifacts : List Artifact
  verdict : Option Verdict
  decision : Option Decision
  channels : PerChannel (Option ChannelStatus)
  tasks : List TaskRecord
  /-- The failure that ended the run, if one did. -/
  error : Option String
  deriving DecidableEq

namespace RunReport

/-- The version of the stored form of reports. -/
def currentSchema : String := "1.0"

/-- The report of a run that has just begun. -/
def start (runId : RunId) (now : Timestamp) : RunReport :=
  { schemaVersion := currentSchema, runId, startedAt := now, finishedAt := none, context := none, version := none,
    artifacts := [], verdict := none, decision := none, channels := .both (some (.notAttempted "gate not reached")), tasks := [],
    error := none }

/-- The report with one more task recorded. -/
def recordTask (r : RunReport) (task : Task) (status : TaskStatus) (durationMs : UInt64) : RunReport :=
  { r with tasks := r.tasks ++ [⟨task, status, durationMs⟩] }

/-- The report with what became of a channel. -/
def setChannel (r : RunReport) (c : Channel) (status : ChannelStatus) : RunReport :=
  { r with channels := r.channels.set c (some status) }

/-- The first record of a task. -/
def task? (r : RunReport) (task : Task) : Option TaskRecord := r.tasks.find? (·.task == task)

/-- The report of a run that ends now. -/
def finish (r : RunReport) (now : Timestamp) : RunReport := { r with finishedAt := some now }

/-- How long a run took, or has taken so far. -/
def durationMs (r : RunReport) (now : Timestamp) : UInt64 := (r.finishedAt.getD now).millisecondsSince r.startedAt

/-- The channels that failed, staging first, with what became of them. -/
def failedChannels (r : RunReport) : List (Channel × ChannelStatus) := r.channels.entries.filter fun (_, s) => s.isFailure

/-- Whether a channel failed. -/
def channelFailed (r : RunReport) (c : Channel) : Bool := (r.channels.get c).any ChannelStatus.isFailure

/-- The tasks that failed. -/
def failedTasks (r : RunReport) : List TaskRecord := r.tasks.filter (·.status.isFailure)

/-- Whether the failure of a task is already told by the channel that it publishes to. -/
def isToldByChannel (r : RunReport) (t : TaskRecord) : Bool := t.task.channel?.any r.channelFailed

/-- Whether a run succeeded. -/
def succeeded (r : RunReport) : Bool :=
  r.error.isNone && r.verdict.any Verdict.passed && r.failedChannels.isEmpty && r.failedTasks.isEmpty

/-- What failed besides the run as a whole and its verification: the channels, and the tasks that no channel tells of. -/
def failures (r : RunReport) : List String :=
  (r.failedChannels.map fun (c, s) => s!"{c}: {s.text}")
    ++ (r.failedTasks.filter fun t => !r.isToldByChannel t).map fun t => s!"{t.task.name}: {t.status.text}"

/-- Why a run did not succeed, if it did not. -/
def failureReason? (r : RunReport) : Option String :=
  match r.error, r.verdict with
  | some e, _ => some e
  | none, none => some "verification did not run"
  | none, some (.fail issues) => some (failedVerificationText issues)
  | none, some .pass => if r.failures.isEmpty then none else some (Text.joinText "; " r.failures)

end RunReport

end ReleaseGate
