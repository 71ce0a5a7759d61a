import ReleaseGate.Context
import ReleaseGate.Decision
import ReleaseGate.Json.Value
import ReleaseGate.Version

/-!
# Lifecycle events

A run tells what it does as a sequence of events, each with a name to filter on and a few fields. A finding, a failed publish
and the end of a run by a failure are warnings; all else is information.
-/

namespace ReleaseGate

/-- What happened in a run. -/
inductive Event where
  | runClassified (context : RunContext)
  | versionResolved (version : Version) (fromTag : Bool)
  | buildFinished (version : Version) (artifactCount : Nat) (totalBytes : UInt64)
  | verifyFinished (passed : Bool) (issueCount : Nat)
  | verifyIssue (issue : Issue)
  | gateDecided (decision : Decision)
  | publishFinished (channel : Channel) (outcome : Outcome)
  | runFinished (durationMs : UInt64) (success : Bool)
  | runAborted (stage error : String)
  deriving DecidableEq

/-- How much an event matters. -/
inductive Event.Level where
  | info
  | warning
  deriving DecidableEq, Repr

namespace Event

/-- The events that tell the verdict of verification: one for the verdict, and one for each finding. -/
def ofVerdict (v : Verdict) : List Event := .verifyFinished v.passed v.issues.length :: v.issues.map .verifyIssue

/-- The name of an event. -/
def name : Event → String
  | .runClassified _ => "run.classified"
  | .versionResolved _ _ => "version.resolved"
  | .buildFinished _ _ _ => "build.finished"
  | .verifyFinished _ _ => "verify.finished"
  | .verifyIssue _ => "verify.issue"
  | .gateDecided _ => "gate.decided"
  | .publishFinished _ _ => "publish.finished"
  | .runFinished _ _ => "run.finished"
  | .runAborted _ _ => "run.aborted"

/-- How much an event matters. -/
def level : Event → Level
  | .verifyIssue _ => .warning
  | .publishFinished _ outcome => if outcome.isSuccess then .info else .warning
  | .runAborted _ _ => .warning
  | _ => .info

/-- The name of a level in log lines. -/
def Level.name : Level → String
  | .info => "INFO"
  | .warning => "WARN"

open Json

/-- The fields of an event, its name aside. -/
def fields : Event → List (String × Json)
  | .runClassified c =>
    [("event_kind", str c.eventKind.name), ("git_ref", str c.gitRef), ("repository", str c.repository),
      ("is_tag_ref", bool c.isTagRef)]
  | .versionResolved v fromTag => [("version", str v.text), ("from_tag", bool fromTag), ("prerelease", bool v.isPrerelease)]
  | .buildFinished v count bytes =>
    [("version", str v.text), ("artifact_count", natural count), ("total_bytes", natural bytes.toNat)]
  | .verifyFinished passed count => [("passed", bool passed), ("issue_count", natural count)]
  | .verifyIssue i => [("check", str i.family.name), ("subject", str i.subject), ("detail", str i.detail)]
  | .gateDecided d =>
    [("decision", str d.text), ("staging", bool (d.allows .staging)), ("production", bool (d.allows .production))]
  | .publishFinished c o => [("channel", str c.name), ("outcome", str o.text)]
  | .runFinished ms success => [("duration_ms", natural ms.toNat), ("success", bool success)]
  | .runAborted stage error => [("stage", str stage), ("error", str error)]

/-- An event as a log line has it. -/
def toJson (e : Event) : Json := object (("event", str e.name) :: ("level", str e.level.name) :: e.fields)

end Event

end ReleaseGate
