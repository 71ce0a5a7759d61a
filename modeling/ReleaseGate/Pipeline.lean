import ReleaseGate.Event
import ReleaseGate.Gate
import ReleaseGate.Publish.Publisher
import ReleaseGate.Report
import ReleaseGate.Resolver
import ReleaseGate.Verifier

/-!
# Promotion runs

A run classifies its trigger, resolves the version, builds, and verifies what was built; the first of these to fail ends the
run. Then the gate decides, and the set is published to each channel that the decision authorizes, each with a credential of its
own that is asked for just before. The two publishes do not wait for each other; here the steps of one come before those of the
other, which is one of the orders in which they can come. Every run ends with a report, and tells what it does as events.
-/

namespace ReleaseGate

/-- What a run works with, over a state in which files, channels and clock live. -/
structure Pipeline (σ : Type) where
  policy : GatePolicy
  /-- Where candidates for a version come from. -/
  source : σ → Except Failure String × σ
  builder : Version → σ → Except Failure ArtifactSet × σ
  issuer : Issuer σ
  publisher : Publisher σ
  /-- Whether files that are on a channel already are no failure. -/
  idempotent : PerChannel Bool := .both true
  /-- The files as they are in a state. -/
  files : σ → FileSystem
  /-- The working directory. -/
  cwd : Place

/-- What a run has recorded and told so far. -/
structure Progress where
  report : RunReport
  events : List Event

namespace Progress

/-- The beginning of a run. -/
def start (id : RunId) (now : Timestamp) : Progress := ⟨.start id now, []⟩

/-- Tells one or more events. -/
def tell (p : Progress) (events : List Event) : Progress := { p with events := p.events ++ events }

/-- Records a task. -/
def record (p : Progress) (task : Task) (status : TaskStatus) (durationMs : UInt64) : Progress :=
  { p with report := p.report.recordTask task status durationMs }

/-- Changes the report otherwise. -/
def note (p : Progress) (f : RunReport → RunReport) : Progress := { p with report := f p.report }

/-- The end of a run, at some point in time. -/
def finish (p : Progress) (now : Timestamp) (success : RunReport → Bool) : Progress :=
  let report := p.report.finish now
  ⟨report, p.events ++ [.runFinished (report.durationMs now) (success report)]⟩

/-- The tasks that a failure of one of the first four tasks leaves undone. -/
def remaining (failed : Task) : List Task :=
  (Task.preparation.dropWhile (· != failed)).drop 1 ++ Channel.all.map Task.publish

/-- Ends a run because one of its first four tasks failed: all tasks after it are cancelled, and no channel is attempted. -/
def abort (p : Progress) (failed : Task) (e : Failure) (durationMs : UInt64) (now : Timestamp) : Progress :=
  let p := (p.tell [.runAborted failed.name e.message]).record failed (.failed e.message) durationMs
  let p := (remaining failed).foldl (fun p task => p.record task .cancelled 0) p
  let p := p.note fun r =>
    { r with channels := .both (some (.notAttempted s!"{failed.name} failed")), error := some e.labelled }
  p.finish now fun _ => false

end Progress

namespace Pipeline

variable {σ : Type}

/-- The time in a state. -/
def now (p : Pipeline σ) (s : σ) : Timestamp := p.publisher.clock s

/-- How long it took from one state to another. -/
def elapsed (p : Pipeline σ) (before after : σ) : UInt64 := (p.now after).millisecondsSince (p.now before)

/-- A run before its publishes: the set, the verdict on it, and what was decided. -/
structure Prepared where
  progress : Progress
  context : RunContext
  set : ArtifactSet
  verdict : Verdict
  decision : Decision

/-- How the task of verification ended. -/
def statusOf : Verdict → TaskStatus
  | .pass => .succeeded
  | .fail issues => .failed s!"{issues.length} verification issue(s)"

/-- Why a decision does not authorize a channel. -/
def unauthorizedText (context : RunContext) (decision : Decision) (c : Channel) : String :=
  match decision.reason? with
  | some reason => reason.text
  | none => s!"{context.eventKind.name} runs do not publish to {c}"

/-- Records that a channel is not authorized. Its task was skipped when verification passed, and cancelled otherwise. -/
def recordUnauthorized (context : RunContext) (decision : Decision) (verified : Bool) (p : Progress) (c : Channel) : Progress :=
  let reason := unauthorizedText context decision c
  (p.record (.publish c) (if verified then .skipped reason else .cancelled) 0).note (·.setChannel c (.notAttempted reason))

/-- Records a failed verification that kept a run from publishing as the failure of the run. -/
def recordFatal (decision : Decision) (p : Progress) : Progress :=
  match decision.reason? with
  | some (.verificationFailed issues) =>
    let e := Failure.verification issues
    (p.tell [.runAborted Task.verify.name e.message]).note fun r => { r with error := some e.labelled }
  | _ => p

/-- Verification and the gate: what a run records and tells once its set is built. -/
def decide (p : Pipeline σ) (progress : Progress) (context : RunContext) (built : ArtifactSet) (s : σ) : Prepared :=
  let verdict := Verifier.verify (p.files s) p.cwd built
  let decision := p.policy.decision context verdict
  let progress := (progress.record .verify (statusOf verdict) (p.elapsed s s)).tell (Event.ofVerdict verdict)
  let progress := (progress.tell [.gateDecided decision]).note fun r =>
    { r with verdict := some verdict, decision := some decision }
  let unauthorized := Channel.all.filter fun c => !decision.allows c
  let progress := unauthorized.foldl (recordUnauthorized context decision verdict.passed) progress
  { progress := recordFatal decision progress, context, set := built, verdict, decision }

/-- The first four tasks of a run, and the gate. -/
def prepare (p : Pipeline σ) (id : RunId) (t : Trigger) (s₀ : σ) : Except Progress Prepared × σ :=
  let progress := Progress.start id (p.now s₀)
  match t.classify with
  | .error e =>
    (.error (progress.abort .classify (.configuration (.trigger e)) (p.elapsed s₀ s₀) (p.now s₀)), s₀)
  | .ok context =>
    let progress := (progress.record .classify .succeeded (p.elapsed s₀ s₀)).tell [.runClassified context]
    let progress := progress.note fun r => { r with context := some context }
    match Resolver.resolve p.source context s₀ with
    | (.error e, s₁) => (.error (progress.abort .resolveVersion e (p.elapsed s₀ s₁) (p.now s₁)), s₁)
    | (.ok version, s₁) =>
      let progress := progress.record .resolveVersion .succeeded (p.elapsed s₀ s₁)
      let progress := (progress.tell [.versionResolved version context.isTagRef]).note fun r => { r with version := some version }
      match p.builder version s₁ with
      | (.error e, s₂) => (.error (progress.abort .build e (p.elapsed s₁ s₂) (p.now s₂)), s₂)
      | (.ok built, s₂) =>
        let progress := progress.record .build .succeeded (p.elapsed s₁ s₂)
        let progress := (progress.tell [.buildFinished version built.artifacts.length built.totalBytes]).note fun r =>
          { r with artifacts := built.artifacts }
        (.ok (p.decide progress context built s₂), s₂)

/-- Publishes a set to one channel, with a credential asked for just before. The answer says how long it took. -/
def publishTo (p : Pipeline σ) (built : ArtifactSet) (c : Channel) : Stepwise σ (Outcome × UInt64) := do
  let start ← Stepwise.observe p.now
  let outcome ←
    match ← p.issuer c with
    | .ok credential => p.publisher.publish c built credential (p.idempotent.get c)
    | .error e => pure (e.toOutcome c)
  let finish ← Stepwise.observe p.now
  pure (outcome, finish.millisecondsSince start)

/-- Publishes a set to some channels. Each publish ends with an outcome of its own: what is asked of the issuer, the registry and
the files is always answered, so no publish breaks off, and no outcome has to stand in for one that did. -/
def publishAll (p : Pipeline σ) (built : ArtifactSet) : List Channel → Stepwise σ (List (Channel × Outcome × UInt64))
  | [] => pure []
  | c :: rest => do
    let (outcome, durationMs) ← p.publishTo built c
    let more ← publishAll p built rest
    pure ((c, outcome, durationMs) :: more)

/-- Records the outcome of a publish. -/
def recordPublish (p : Progress) (published : Channel × Outcome × UInt64) : Progress :=
  let (c, outcome, durationMs) := published
  ((p.tell [.publishFinished c outcome]).record (.publish c) (.ofOutcome outcome) durationMs).note
    (·.setChannel c (.ofOutcome outcome))

/-- The end of a run whose publishes are done. -/
def conclude (prepared : Prepared) (published : List (Channel × Outcome × UInt64)) (now : Timestamp) : Progress :=
  (published.foldl recordPublish prepared.progress).finish now RunReport.succeeded

/-- A run from its trigger to the outcome of every channel. -/
def run (p : Pipeline σ) (id : RunId) (t : Trigger) (s : σ) : Progress × σ :=
  match p.prepare id t s with
  | (.error progress, s) => (progress, s)
  | (.ok prepared, s) =>
    let (published, s) := (p.publishAll prepared.set prepared.decision.channels).run s
    (conclude prepared published (p.now s), s)

end Pipeline

end ReleaseGate
