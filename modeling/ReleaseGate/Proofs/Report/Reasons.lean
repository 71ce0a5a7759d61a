import ReleaseGate.Proofs.Text.Lines
import ReleaseGate.Report.Summary

/-!
# Reasons for a failure

A report that names a reason for a failure is one of a run that did not succeed, and the other way round: `failureReason?` leaves
out only failed tasks that a failed channel tells of. What `succeeded` asks for is taken apart in `succeeded_iff`, and the summary
says it in its heading. What the reason of a verified run has to tell is said one channel and one record at a time (`told`), and
`failureReason?_accounts` says that it tells just that.
-/

namespace ReleaseGate.RunReport

open Text

/-- A run succeeded when no failure ended it, verification passed, and no channel and no task failed. -/
theorem succeeded_iff (r : RunReport) :
    r.succeeded = true ↔ r.error = none ∧ r.verdict = some .pass ∧ r.failedChannels = [] ∧ r.failedTasks = [] := by
  have verified : r.verdict.any Verdict.passed = true ↔ r.verdict = some .pass := by
    cases r.verdict with
    | none => simp
    | some verdict => simp [Verdict.passed_iff]
  unfold succeeded
  rw [Bool.and_eq_true, Bool.and_eq_true, Bool.and_eq_true, Option.isNone_iff_eq_none, verified, List.isEmpty_iff,
    List.isEmpty_iff, and_assoc, and_assoc]

theorem mem_failedChannels_iff (r : RunReport) (c : Channel) (status : ChannelStatus) :
    (c, status) ∈ r.failedChannels ↔ r.channels.get c = some status ∧ status.isFailure = true := by
  unfold failedChannels
  rw [List.mem_filter, PerChannel.mem_entries_iff]

/-- No channel failed when none of those that have a status has that of a failure. -/
theorem failedChannels_eq_nil_iff (r : RunReport) :
    r.failedChannels = [] ↔ ∀ c status, r.channels.get c = some status → status.isFailure = false := by
  rw [List.eq_nil_iff_forall_not_mem]
  constructor
  · intro none_failed c status there
    refine Bool.eq_false_iff.mpr fun failed => ?_
    exact none_failed (c, status) ((mem_failedChannels_iff r c status).mpr ⟨there, failed⟩)
  · rintro no_failure ⟨c, status⟩ failed
    obtain ⟨there, failed⟩ := (mem_failedChannels_iff r c status).mp failed
    rw [no_failure c status there] at failed
    cases failed

theorem failedTasks_eq_nil_iff (r : RunReport) : r.failedTasks = [] ↔ ∀ x ∈ r.tasks, x.status.isFailure = false := by
  unfold failedTasks
  rw [List.filter_eq_nil_iff]
  simp only [Bool.not_eq_true]

/-- Where no channel failed, no channel tells of a failed task. -/
theorem isToldByChannel_eq_false {r : RunReport} (h : r.failedChannels = []) (x : TaskRecord) : r.isToldByChannel x = false := by
  have quiet : ∀ c, r.channelFailed c = false := by
    intro c
    unfold channelFailed
    cases there : r.channels.get c with
    | none => rfl
    | some status => exact (failedChannels_eq_nil_iff r).mp h c status there
  unfold isToldByChannel
  cases x.task.channel? with
  | none => rfl
  | some c => exact quiet c

/-- There is nothing to tell when no channel and no task failed. -/
theorem failures_eq_nil_iff (r : RunReport) : r.failures = [] ↔ r.failedChannels = [] ∧ r.failedTasks = [] := by
  unfold failures
  rw [List.append_eq_nil_iff, List.map_eq_nil_iff, List.map_eq_nil_iff]
  refine and_congr_right fun quiet => ?_
  have all_told : (r.failedTasks.filter fun x => !r.isToldByChannel x) = r.failedTasks := by
    rw [List.filter_eq_self]
    intro x _
    rw [isToldByChannel_eq_false quiet x]
    rfl
  rw [all_told]

/-- A run has no reason for a failure exactly when it succeeded. -/
theorem failureReason?_eq_none (r : RunReport) : r.failureReason? = none ↔ r.succeeded = true := by
  rw [succeeded_iff, ← failures_eq_nil_iff]
  unfold failureReason?
  cases r.error with
  | some e => simp
  | none =>
    cases r.verdict with
    | none => simp
    | some verdict =>
      cases verdict with
      | fail issues => simp
      | pass => cases r.failures <;> simp

/-- How the heading of a summary begins when the run succeeded, and when it did not. -/
theorem heading_eq (r : RunReport) :
    r.heading = if r.succeeded = true then "# Shipgate run succeeded\n\n" else "# Shipgate run failed\n\n" := by
  unfold heading
  cases r.succeeded <;> rfl

theorem isWhole_heading (r : RunReport) : IsWhole r.heading := by
  rw [heading_eq]
  cases r.succeeded
  · exact isWhole_append_newline "# Shipgate run failed\n"
  · exact isWhole_append_newline "# Shipgate run succeeded\n"

/-- A summary begins with the heading that says how the run ended. -/
theorem exists_summary_eq (r : RunReport) :
    ∃ rest, r.summary = (if r.succeeded = true then "# Shipgate run succeeded\n\n" else "# Shipgate run failed\n\n") ++ rest := by
  rw [← heading_eq]
  unfold summary
  simp only [String.append_assoc]
  exact ⟨_, rfl⟩

/-- The first line of a summary is its heading. -/
theorem head?_linesOf_summary (r : RunReport) :
    (linesOf r.summary).head? = some (if r.succeeded = true then "# Shipgate run succeeded" else "# Shipgate run failed") := by
  obtain ⟨rest, summary⟩ := r.exists_summary_eq
  rw [summary, ← heading_eq, r.isWhole_heading.linesOf_append, heading_eq]
  cases r.succeeded <;> rfl

/-! ## What a reason tells -/

/-- What there is to tell of a channel: that it failed, or that it was cancelled. -/
def channelFailure? (r : RunReport) (c : Channel) : Option String :=
  match r.channels.get c with
  | some (.failed reason) => some s!"{c}: failed: {reason}"
  | some .cancelled => some s!"{c}: cancelled"
  | _ => none

/-- What there is to tell of a record of a task: that the task failed, unless there is something to tell of the channel that it
publishes to. -/
def taskFailure? (r : RunReport) (t : TaskRecord) : Option String :=
  match t.status, t.task.channel?.bind r.channelFailure? with
  | .failed reason, none => some s!"{t.task.name}: failed: {reason}"
  | _, _ => none

/-- What there is to tell of the channels, staging first, and then of the records of tasks in their order. -/
def told (r : RunReport) : List String := Channel.all.filterMap r.channelFailure? ++ r.tasks.filterMap r.taskFailure?

theorem channelFailure?_eq (r : RunReport) (c : Channel) :
    r.channelFailure? c = ((r.channels.get c).filter ChannelStatus.isFailure).map fun status => s!"{c}: {status.text}" := by
  have label : ": failed: " = ": " ++ "failed: " := rfl
  have word : ": cancelled" = ": " ++ "cancelled" := rfl
  unfold channelFailure?
  cases r.channels.get c with
  | none => rfl
  | some status =>
    cases status with
    | notAttempted reason => rfl
    | published outcome => rfl
    | failed reason =>
      show some (c.name ++ ": failed: " ++ reason) = some (c.name ++ ": " ++ ("failed: " ++ reason))
      rw [label]
      simp only [String.append_assoc]
    | cancelled =>
      show some (c.name ++ ": cancelled") = some (c.name ++ ": " ++ "cancelled")
      rw [word, String.append_assoc]

/-- There is something to tell of a channel just when it failed. -/
theorem isSome_channelFailure? (r : RunReport) (c : Channel) : (r.channelFailure? c).isSome = r.channelFailed c := by
  rw [channelFailure?_eq, Option.isSome_map, channelFailed]
  cases r.channels.get c <;> simp

theorem isSome_toldByChannel (r : RunReport) (t : TaskRecord) :
    (t.task.channel?.bind r.channelFailure?).isSome = r.isToldByChannel t := by
  unfold isToldByChannel
  cases t.task.channel? with
  | none => rfl
  | some c => exact r.isSome_channelFailure? c

theorem taskFailure?_eq (r : RunReport) (t : TaskRecord) :
    r.taskFailure? t =
      if t.status.isFailure && !r.isToldByChannel t then some s!"{t.task.name}: {t.status.text}" else none := by
  have label : ": failed: " = ": " ++ "failed: " := rfl
  rw [← isSome_toldByChannel]
  unfold taskFailure?
  cases t.status with
  | succeeded => rfl
  | skipped reason => rfl
  | cancelled => rfl
  | failed reason =>
    cases t.task.channel?.bind r.channelFailure? with
    | some _ => rfl
    | none =>
      show some (t.task.name ++ ": failed: " ++ reason) = some (t.task.name ++ ": " ++ ("failed: " ++ reason))
      rw [label]
      simp only [String.append_assoc]

/-- What there is to tell is what the reason of a verified run is made of. -/
theorem told_eq (r : RunReport) : r.told = r.failures := by
  have channels : Channel.all.filterMap r.channelFailure? = r.failedChannels.map fun x => s!"{x.1}: {x.2.text}" := by
    unfold failedChannels PerChannel.entries
    rw [List.filter_filterMap, List.map_filterMap]
    refine congrArg (fun f => Channel.all.filterMap f) (funext fun c => ?_)
    rw [channelFailure?_eq]
    cases r.channels.get c with
    | none => rfl
    | some status =>
      simp only [Option.map_some, Option.filter_some]
      cases status.isFailure <;> rfl
  have tasks : r.tasks.filterMap r.taskFailure? =
      (r.failedTasks.filter fun t => !r.isToldByChannel t).map fun t => s!"{t.task.name}: {t.status.text}" := by
    unfold failedTasks
    rw [List.filter_filter, ← List.filterMap_eq_filter, List.map_filterMap]
    refine congrArg (fun f => r.tasks.filterMap f) (funext fun t => ?_)
    rw [taskFailure?_eq]
    cases failure : t.status.isFailure <;> cases covered : r.isToldByChannel t <;> simp [Option.guard, failure, covered]
  rw [told, channels, tasks]
  rfl

theorem mem_told_of_channel {r : RunReport} {c : Channel} {status : ChannelStatus} (there : r.channels.get c = some status)
    (failed : status.isFailure = true) : s!"{c}: {status.text}" ∈ r.told := by
  refine List.mem_append_left _ (List.mem_filterMap.mpr ⟨c, Channel.mem_all c, ?_⟩)
  rw [channelFailure?_eq, there, Option.filter_some, if_pos failed]
  rfl

/-- A failed task is told of, or the channel that it publishes to is. -/
theorem mem_told_of_task {r : RunReport} {t : TaskRecord} (recorded : t ∈ r.tasks) (failed : t.status.isFailure = true) :
    s!"{t.task.name}: {t.status.text}" ∈ r.told ∨
      ∃ c status, t.task.channel? = some c ∧ r.channels.get c = some status ∧ status.isFailure = true ∧
        s!"{c}: {status.text}" ∈ r.told := by
  cases covered : r.isToldByChannel t with
  | false =>
    refine .inl (List.mem_append_right _ (List.mem_filterMap.mpr ⟨t, recorded, ?_⟩))
    rw [taskFailure?_eq, failed, covered]
    rfl
  | true =>
    obtain ⟨c, publishes, failedChannel⟩ := (Option.any_eq_true ..).mp covered
    obtain ⟨status, there, failure⟩ := (Option.any_eq_true ..).mp failedChannel
    exact .inr ⟨c, status, publishes, there, failure, mem_told_of_channel there failure⟩

/-- A failure always has a reason, and only failures have one; the summary begins with a line that says succeeded just when there is
none. The reason of a verified run that nothing ended is all there is to tell, and nothing that failed is left out of it: of each
channel that failed or was cancelled, and of each task that failed, or of the channel that it publishes to. -/
theorem failureReason?_accounts (r : RunReport) :
    (r.failureReason? = none ↔ r.succeeded = true) ∧
      ((linesOf r.summary).head? = some "# Shipgate run succeeded" ↔ r.succeeded = true) ∧
      (r.error = none → r.verdict = some .pass →
        r.failureReason? = (if r.told = [] then none else some ("; ".intercalate r.told)) ∧
          (∀ c status, r.channels.get c = some status → status.isFailure = true → s!"{c}: {status.text}" ∈ r.told) ∧
          ∀ t ∈ r.tasks, t.status.isFailure = true →
            s!"{t.task.name}: {t.status.text}" ∈ r.told ∨
              ∃ c status, t.task.channel? = some c ∧ r.channels.get c = some status ∧ status.isFailure = true ∧
                s!"{c}: {status.text}" ∈ r.told) := by
  refine ⟨r.failureReason?_eq_none, ?_, fun undisturbed verified => ⟨?_, fun _ _ => mem_told_of_channel, fun _ => mem_told_of_task⟩⟩
  · rw [head?_linesOf_summary]
    cases r.succeeded <;> decide
  · rw [failureReason?, undisturbed, verified, told_eq, ← joinText_eq_intercalate]
    simp only [List.isEmpty_iff]

/-- The report of a run in which staging refused the files, and in which a build is recorded as failed twice. -/
def troubled : RunReport :=
  { RunReport.start .zero .epoch with
    verdict := some .pass
    channels := ⟨some (.failed "HTTP 500"), none⟩
    tasks := [⟨.build, .failed "no space", 1⟩, ⟨.stagingPublish, .failed "HTTP 500", 2⟩, ⟨.build, .failed "no space", 1⟩] }

/-- The refusal is told once, and each of the two records is told. -/
theorem failureReason?_accounts_troubled :
    troubled.error = none ∧ troubled.verdict = some .pass ∧
      troubled.failureReason? = some "staging: failed: HTTP 500; build: failed: no space; build: failed: no space" := by
  have reason := (troubled.failureReason?_accounts.2.2 rfl rfl).1
  have told : troubled.told = ["staging: failed: HTTP 500", "build: failed: no space", "build: failed: no space"] := by decide
  refine ⟨rfl, rfl, ?_⟩
  rw [reason, told]
  rfl

end ReleaseGate.RunReport
