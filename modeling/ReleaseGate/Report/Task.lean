import ReleaseGate.Decision

/-!
# Tasks and channels of a run

A run is a graph of six tasks: classify, resolve the version, build and verify, strictly one after another, and then a publish
to each channel. A report has the status of every task, and for each channel what became of it.
-/

namespace ReleaseGate

/-- The tasks of a run. -/
inductive Task where
  | classify
  | resolveVersion
  | build
  | verify
  | stagingPublish
  | productionPublish
  deriving DecidableEq, Repr, Inhabited

namespace Task

/-- The tasks that run before anything is published, in order. -/
def preparation : List Task := [.classify, .resolveVersion, .build, .verify]

/-- The task that publishes to a channel. -/
def publish : Channel → Task
  | .staging => .stagingPublish
  | .production => .productionPublish

/-- The tasks, in order. -/
def all : List Task := preparation ++ Channel.all.map publish

/-- The channel that a task publishes to. -/
def channel? : Task → Option Channel
  | .stagingPublish => some .staging
  | .productionPublish => some .production
  | _ => none

/-- The name of a task in reports and messages. -/
def name : Task → String
  | .classify => "classify"
  | .resolveVersion => "resolve_version"
  | .build => "build"
  | .verify => "verify"
  | .stagingPublish => "staging_publish"
  | .productionPublish => "production_publish"

/-- The task of a name. -/
def ofName? (s : String) : Option Task := all.find? (·.name == s)

@[simp] theorem ofName?_name (t : Task) : ofName? t.name = some t := by cases t <;> decide

@[simp] theorem channel?_publish (c : Channel) : (publish c).channel? = some c := by cases c <;> rfl

end Task

/-- How a task ended. -/
inductive TaskStatus where
  | succeeded
  | failed (reason : String)
  /-- It did not run because the decision did not authorize it. -/
  | skipped (reason : String)
  /-- It did not run because a task before it failed. -/
  | cancelled
  deriving DecidableEq, Repr

namespace TaskStatus

/-- Whether a task ended in a failure. -/
def isFailure : TaskStatus → Bool
  | .failed _ => true
  | _ => false

/-- The wording of a status. -/
def text : TaskStatus → String
  | .succeeded => "succeeded"
  | .failed reason => s!"failed: {reason}"
  | .skipped reason => s!"skipped: {reason}"
  | .cancelled => "cancelled"

/-- The status of a publish with a given outcome. -/
def ofOutcome : Outcome → TaskStatus
  | .failed reason => .failed reason
  | _ => .succeeded

end TaskStatus

/-- The record of one task. -/
structure TaskRecord where
  task : Task
  status : TaskStatus
  durationMs : UInt64
  deriving DecidableEq, Repr

/-- What became of a channel. -/
inductive ChannelStatus where
  | notAttempted (reason : String)
  | published (outcome : Outcome)
  | failed (reason : String)
  | cancelled
  deriving DecidableEq, Repr

namespace ChannelStatus

/-- What became of a channel whose publish had a given outcome. -/
def ofOutcome : Outcome → ChannelStatus
  | .failed reason => .failed reason
  | outcome => .published outcome

/-- Whether a channel failed. -/
def isFailure : ChannelStatus → Bool
  | .failed _ => true
  | .cancelled => true
  | _ => false

/-- The wording of what became of a channel. -/
def text : ChannelStatus → String
  | .notAttempted reason => s!"not attempted ({reason})"
  | .published outcome => outcome.text
  | .failed reason => s!"failed: {reason}"
  | .cancelled => "cancelled"

end ChannelStatus

end ReleaseGate
