import ReleaseGate.Proofs.Run.Events
import ReleaseGate.Report.Summary

/-!
# Runs up to their identity and times

Two runs that do the same still differ in their identity, in when they take place, and in how long everything takes. `stamped` makes
all reports agree in that, and `timeless` all events. `SameUpToTimes` says that two runs report and tell the same otherwise.
-/

namespace ReleaseGate

namespace RunReport

/-! ## Reports -/

/-- The report as it were if the run had a given identity and happened all at one time. -/
def stamped (id : RunId) (time : Timestamp) (r : RunReport) : RunReport :=
  { r with
    runId := id
    startedAt := time
    finishedAt := r.finishedAt.map fun _ => time
    tasks := r.tasks.map fun t => { t with durationMs := 0 } }

theorem stamped_recordTask (id : RunId) (time : Timestamp) (r : RunReport) (task : Task) (status : TaskStatus) (ms : UInt64) :
    (r.recordTask task status ms).stamped id time = (r.stamped id time).recordTask task status 0 := by
  simp [stamped, recordTask]

theorem stamped_settle (id : RunId) (time : Timestamp) (r : RunReport) (x : Settlement) :
    (r.settle x).stamped id time = (r.stamped id time).settle { x with durationMs := 0 } := by
  simp [stamped, settle, recordTask, setChannel]

theorem stamped_finish (id : RunId) (time : Timestamp) (r : RunReport) (now : Timestamp) :
    (r.finish now).stamped id time = (r.stamped id time).finish time := rfl

/-- Reports that are the same up to identity and times stay so when channels are settled in them in the same way, however long that
took. -/
theorem stamped_settleAll {id : RunId} {time : Timestamp} {r r' : RunReport} {xs xs' : List Settlement}
    (same : r.stamped id time = r'.stamped id time)
    (settled : xs.map (fun x => { x with durationMs := 0 }) = xs'.map fun x => { x with durationMs := 0 }) :
    (xs.foldl settle r).stamped id time = (xs'.foldl settle r').stamped id time := by
  induction xs generalizing xs' r r' with
  | nil =>
    obtain rfl := List.map_eq_nil_iff.mp settled.symm
    exact same
  | cons x rest ih =>
    cases xs' with
    | nil => cases settled
    | cons x' rest' =>
      obtain ⟨first, later⟩ := List.cons.inj settled
      rw [List.foldl_cons, List.foldl_cons]
      refine ih ?_ later
      rw [stamped_settle, stamped_settle, same]
      exact congrArg (settle (r'.stamped id time)) first

/-- Identity and times have no part in whether a report is one of success. -/
theorem succeeded_stamped (id : RunId) (time : Timestamp) (r : RunReport) : (r.stamped id time).succeeded = r.succeeded := by
  have tasks : (r.stamped id time).failedTasks = r.failedTasks.map fun t => { t with durationMs := 0 } := by
    unfold failedTasks stamped
    rw [List.filter_map]
    rfl
  have channels : (r.stamped id time).failedChannels = r.failedChannels := rfl
  unfold succeeded
  rw [tasks, channels, List.isEmpty_map]
  rfl

/-- What a summary tells before its tasks, the only part in which times are shown. -/
def summaryStart (r : RunReport) : String :=
  r.heading ++ r.facts ++ artifactSection r.artifacts ++ textOf verdictSection r.verdict ++ r.channelSection

theorem summary_eq (r : RunReport) : r.summary = r.summaryStart ++ taskSection r.tasks := rfl

theorem summaryStart_stamped (id : RunId) (time : Timestamp) (r : RunReport) :
    (r.stamped id time).summaryStart = r.summaryStart := by
  have heading : (r.stamped id time).heading = r.heading := by
    unfold heading
    rw [succeeded_stamped]
  unfold summaryStart
  rw [heading]
  rfl

end RunReport

/-! ## Events -/

/-- The event as it were if the run had taken no time. -/
def Event.timeless : Event → Event
  | .runFinished _ success => .runFinished 0 success
  | e => e

namespace Progress

/-- Two runs report and tell the same, up to their identities and times. -/
structure SameUpToTimes (a b : Progress) : Prop where
  report : ∀ id time, a.report.stamped id time = b.report.stamped id time
  /-- The summaries have the same tasks with the same statuses, and are the same before them. -/
  summary : ∃ start, a.report.summary = start ++ RunReport.taskSection a.report.tasks ∧
    b.report.summary = start ++ RunReport.taskSection b.report.tasks ∧
    a.report.tasks.map (fun t => (t.task, t.status)) = b.report.tasks.map fun t => (t.task, t.status)
  events : a.events.map Event.timeless = b.events.map Event.timeless

/-- The summaries follow the reports. -/
theorem sameUpToTimes_of_report {a b : Progress} (report : ∀ id time, a.report.stamped id time = b.report.stamped id time)
    (events : a.events.map Event.timeless = b.events.map Event.timeless) : a.SameUpToTimes b := by
  have same := report a.report.runId .epoch
  refine ⟨report, ⟨a.report.summaryStart, a.report.summary_eq, ?_, ?_⟩, events⟩
  · have start := congrArg RunReport.summaryStart same
    rw [RunReport.summaryStart_stamped, RunReport.summaryStart_stamped] at start
    rw [start]
    exact b.report.summary_eq
  · have tasks := congrArg (fun r => r.tasks.map fun t => (t.task, t.status)) same
    simp only [RunReport.stamped, List.map_map] at tasks
    exact tasks

/-- Runs that one of their first tasks ended for the same reason are the same up to times, if they were before. -/
theorem sameUpToTimes_abort {a b : Progress} (report : ∀ id time, a.report.stamped id time = b.report.stamped id time)
    (events : a.events = b.events) (failed : Task) (e : Failure) (ms ms' : UInt64) (now now' : Timestamp) :
    (a.abort failed e ms now).SameUpToTimes (b.abort failed e ms' now') := by
  refine sameUpToTimes_of_report (fun id time => ?_) ?_
  · have same := report id time
    rw [report_abort, report_abort]
    simp only [RunReport.stamped, RunReport.mk.injEq, List.map_append, List.map_cons] at same ⊢
    simp [same]
  · rw [events_abort, events_abort, events]
    simp [Event.timeless]

end Progress

namespace Pipeline

/-! ## The end of a run -/

theorem timeless_ofOutcome {published published' : List (Channel × Outcome × UInt64)}
    (outcomes : published.map (fun x => (x.1, x.2.1)) = published'.map fun x => (x.1, x.2.1)) :
    (published.map Settlement.ofOutcome).map (fun x => { x with durationMs := 0 }) =
      (published'.map Settlement.ofOutcome).map fun x => { x with durationMs := 0 } := by
  have each : ∀ xs : List (Channel × Outcome × UInt64),
      (xs.map Settlement.ofOutcome).map (fun x => { x with durationMs := 0 }) =
        (xs.map fun x => (x.1, x.2.1)).map fun x => Settlement.ofOutcome (x.1, x.2, 0) := by
    intro xs
    rw [List.map_map, List.map_map]
    rfl
  rw [each, each, outcomes]

/-- What comes of a run that publishes is the same up to identity and times when the outcomes are. -/
theorem stamped_conclude {id : RunId} {time : Timestamp} {prepared prepared' : Prepared}
    {published published' : List (Channel × Outcome × UInt64)}
    (same : prepared.progress.report.stamped id time = prepared'.progress.report.stamped id time)
    (outcomes : published.map (fun x => (x.1, x.2.1)) = published'.map fun x => (x.1, x.2.1)) (now now' : Timestamp) :
    (conclude prepared published now).report.stamped id time = (conclude prepared' published' now').report.stamped id time := by
  rw [report_conclude, report_conclude, RunReport.stamped_finish, RunReport.stamped_finish,
    RunReport.stamped_settleAll same (timeless_ofOutcome outcomes)]

/-- Runs that publish with the same outcomes are the same up to times, if they were before. -/
theorem sameUpToTimes_conclude {prepared prepared' : Prepared} {published published' : List (Channel × Outcome × UInt64)}
    (report : ∀ id time, prepared.progress.report.stamped id time = prepared'.progress.report.stamped id time)
    (events : prepared.progress.events = prepared'.progress.events)
    (outcomes : published.map (fun x => (x.1, x.2.1)) = published'.map fun x => (x.1, x.2.1)) (now now' : Timestamp) :
    (conclude prepared published now).SameUpToTimes (conclude prepared' published' now') := by
  have reports := fun id time => stamped_conclude (report id time) outcomes now now'
  refine Progress.sameUpToTimes_of_report reports ?_
  have success : (conclude prepared published now).report.succeeded = (conclude prepared' published' now').report.succeeded := by
    rw [← RunReport.succeeded_stamped prepared.progress.report.runId .epoch, reports, RunReport.succeeded_stamped]
  have told : ∀ xs : List (Channel × Outcome × UInt64),
      xs.map publishEvent = (xs.map fun x => (x.1, x.2.1)).map fun x => Event.publishFinished x.1 x.2 := by
    intro xs
    rw [List.map_map]
    rfl
  rw [events_conclude, events_conclude, events, told, told, outcomes, success]
  simp [Event.timeless]

end Pipeline

end ReleaseGate
