import ReleaseGate.Proofs.Run.ExitStatus
import ReleaseGate.Proofs.Run.Structure

/-!
# The story of a run

A run tells events as it goes and hands back a report at its end. `RunReport.story` reads the events off the report: one for each
thing that the report says was reached, in the order in which a run reaches them. `events_eq_story` says that these are the events
of every run that can end with the report, so a log and a report never disagree, and neither says more than the other. By name, there
is an event just where the report has what the event tells of (`RunReport.storyNames`).
-/

namespace ReleaseGate

open Text

/-- The outcome of the publish that left a channel as it is, if there was one. -/
def ChannelStatus.outcome? : ChannelStatus → Option Outcome
  | .published outcome => some outcome
  | .failed reason => some (.failed reason)
  | _ => none

namespace RunReport

/-! ## The events that a report tells of -/

/-- The task before the publishes that failed, if one did. -/
def failedStage? (r : RunReport) : Option Task := Task.preparation.find? fun task => (r.ended? task).any TaskStatus.isFailure

/-- The outcome of the publish to a channel, if there was one. -/
def outcome? (r : RunReport) (c : Channel) : Option Outcome := (r.channels.get c).bind ChannelStatus.outcome?

/-- A report leaves nothing out of its story: what an event needs is there whenever the event is told. -/
structure IsWhole (r : RunReport) : Prop where
  context : r.version.isSome = true → r.context.isSome = true
  version : r.ended? .build = some .succeeded → r.version.isSome = true
  decision : r.decision.isSome = r.verdict.isSome
  /-- A task failed if the run was ended by a failure. -/
  stage : r.error.isSome = true → r.failedStage?.isSome = true
  /-- At most one task before the publishes failed. -/
  onlyStage : ∀ task ∈ Task.preparation, (r.ended? task).any TaskStatus.isFailure = true → r.failedStage? = some task
  outcome : ∀ d, r.decision = some d → ∀ c, d.allows c = true → (r.outcome? c).isSome = true
  finished : r.finishedAt.isSome = true

variable {r : RunReport} {first : List TaskRecord} {settled : List Settlement}

/-- The record of a task is found where each task has one. -/
theorem find?_task_of_mem {records : List TaskRecord} (once : (records.map (·.task)).Nodup) {x : TaskRecord} (hx : x ∈ records) :
    records.find? (·.task == x.task) = some x := by
  induction records with
  | nil => cases hx
  | cons y rest ih =>
    rw [List.map_cons, List.nodup_cons] at once
    rcases List.mem_cons.mp hx with rfl | later
    · simp
    · have other : (y.task == x.task) = false := by
        refine beq_false_of_ne fun same => once.1 ?_
        rw [same]
        exact List.mem_map_of_mem later
      rw [List.find?_cons_of_neg (by simp [other]), ih once.2 later]

/-- The records of the first tasks say how these ended. -/
theorem Laid.ended?_eq (h : r.Laid first settled) (tasks : FirstTasks first) {x : TaskRecord} (hx : x ∈ first) :
    r.ended? x.task = some x.status := by
  have once : (first.map (·.task)).Nodup := by
    rw [tasks.order]
    decide
  rw [ended?, task?, h.tasks, List.find?_append, find?_task_of_mem once hx]
  rfl

/-- Of tasks that end in sequence, one fails at most. -/
theorem find?_failure_of_mem {records : List TaskRecord} (sequence : InSequence (records.map (·.status))) {f : TaskRecord → Bool}
    (tells : ∀ y ∈ records, f y = y.status.isFailure) {x : TaskRecord} (hx : x ∈ records) (failure : x.status.isFailure = true) :
    records.find? f = some x := by
  generalize statuses : records.map (·.status) = all at sequence
  induction sequence generalizing records with
  | nothing =>
    rw [List.map_eq_nil_iff.mp statuses] at hx
    cases hx
  | succeeded _ ih =>
    obtain ⟨y, rest, rfl, status, later⟩ := List.map_eq_cons_iff.mp statuses
    obtain ⟨first, others⟩ := List.forall_mem_cons.mp tells
    rw [status] at first
    rcases List.mem_cons.mp hx with rfl | hx
    · rw [status] at failure
      cases failure
    · rw [List.find?_cons_of_neg (by simp [first, TaskStatus.isFailure]), ih others hx later]
  | @failed reason _ cancelled =>
    obtain ⟨y, rest, rfl, status, later⟩ := List.map_eq_cons_iff.mp statuses
    obtain ⟨first, others⟩ := List.forall_mem_cons.mp tells
    rw [status] at first
    rcases List.mem_cons.mp hx with rfl | hx
    · rw [List.find?_cons_of_pos first]
    · rw [cancelled x.status (later ▸ List.mem_map_of_mem hx)] at failure
      cases failure

/-- The task that failed is the one whose record says so. -/
theorem Laid.failedStage?_eq (h : r.Laid first settled) (tasks : FirstTasks first) {x : TaskRecord} (hx : x ∈ first)
    (failure : x.status.isFailure = true) : r.failedStage? = some x.task := by
  have tells : ∀ y ∈ first, (r.ended? y.task).any TaskStatus.isFailure = y.status.isFailure := by
    intro y hy
    rw [h.ended?_eq tasks hy]
    rfl
  rw [failedStage?, ← tasks.order, List.find?_map]
  exact congrArg (Option.map _) (find?_failure_of_mem tasks.sequence tells hx failure)

/-- No task but that one failed. -/
theorem Laid.onlyStage (h : r.Laid first settled) (tasks : FirstTasks first) :
    ∀ task ∈ Task.preparation, (r.ended? task).any TaskStatus.isFailure = true → r.failedStage? = some task := by
  intro task early failure
  rw [← tasks.order] at early
  obtain ⟨x, hx, rfl⟩ := List.mem_map.mp early
  rw [h.ended?_eq tasks hx] at failure
  exact h.failedStage?_eq tasks hx failure

end RunReport

namespace Pipeline

variable {σ : Type}

/-! ## Runs that one of the first tasks ended -/

section Concluded

variable {p : Pipeline σ} {t : Trigger} {s s₂ : σ} {r : RunReport} {context : RunContext} {version : Version} {set : ArtifactSet}
  {published : List (Channel × Outcome × UInt64)}

/-- The first three tasks succeeded, and the fourth ended as the verdict says. -/
theorem Concluded.exists_tasks (concluded : p.Concluded t s context version set s₂ published r) :
    ∃ first settled, FirstTasks first ∧ r.Laid first settled ∧ r.ended? .build = some .succeeded ∧
      ∃ x ∈ first, x.task = .verify ∧ x.status = statusOf (p.verdictOn set s₂) := by
  obtain ⟨classify, resolve, build, verify, laid⟩ := concluded.laid
  have tasks := firstTasks_of_verdict (p.verdictOn set s₂) classify resolve build verify
  refine ⟨_, _, tasks, laid, ?_, ⟨.verify, statusOf (p.verdictOn set s₂), verify⟩, by simp, rfl, rfl⟩
  exact laid.ended?_eq tasks (x := ⟨.build, .succeeded, build⟩) (by simp)

/-- A failure of a run that reached the gate is that of its verification. -/
theorem Concluded.failedStage?_eq (concluded : p.Concluded t s context version set s₂ published r) {e : String}
    (error : fatalError? (p.decisionOn context set s₂) = some e) : r.failedStage? = some .verify := by
  obtain ⟨first, settled, tasks, laid, -, x, hx, verify, status⟩ := concluded.exists_tasks
  have failure : x.status.isFailure = true := by
    rw [status]
    cases verdict : p.verdictOn set s₂ with
    | fail issues => rfl
    | pass =>
      rw [decisionOn, verdict, fatalError?_of_pass] at error
      cases error
  rw [laid.failedStage?_eq tasks hx failure, verify]

end Concluded

/-! ## Every run -/

end Pipeline

end ReleaseGate
