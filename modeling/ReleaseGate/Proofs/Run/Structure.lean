import ReleaseGate.Proofs.Run.Records

/-!
# The structure of reports

Whatever happens in a run, its report has the same structure: one record for each of the six tasks, the first four in order and
ended in sequence, and for each of the two channels a status that tells the same as the record of its publish. What was found out
on the way is there just when the record of its task says so (`Progressed`). `Structured` says all of this, and
`structured_of_ends` that every run ends with such a report, whichever way its publishes fall between each other.
-/

namespace ReleaseGate

theorem Task.publish_not_mem_preparation (c : Channel) : Task.publish c ∉ Task.preparation := by
  cases c <;> decide

namespace RunReport

/-- How a task ended, if it has a record. -/
def ended? (r : RunReport) (task : Task) : Option TaskStatus := (r.task? task).map (·.status)

/-! ## What settled channels make of a report -/

variable {r : RunReport} {first : List TaskRecord} {settled : List Settlement}

theorem FirstTasks.length_eq (h : FirstTasks first) : first.length = 4 := by
  have same := congrArg List.length h.order
  rw [List.length_map] at same
  exact same

/-- The first four records of a report are those of its first tasks. -/
theorem Laid.take_tasks (h : r.Laid first settled) (tasks : FirstTasks first) : r.tasks.take 4 = first := by
  rw [h.tasks, ← FirstTasks.length_eq tasks]
  exact List.take_left

/-- A report in which each channel is settled once has one record for each task. -/
theorem Laid.count_task (h : r.Laid first settled) (tasks : FirstTasks first)
    (each : (settled.map (·.channel)).Perm Channel.all) (task : Task) : (r.tasks.map (·.task)).count task = 1 := by
  have publishes : (settled.map Settlement.record).map (·.task) = (settled.map (·.channel)).map Task.publish := by
    rw [List.map_map, List.map_map]
    rfl
  have all : (r.tasks.map (·.task)).Perm Task.all := by
    rw [h.tasks, List.map_append, tasks.order, publishes]
    exact (each.map Task.publish).append_left Task.preparation
  rw [all.count_eq]
  cases task <;> rfl

/-- A report in which each channel is settled has a status for each channel. -/
theorem Laid.entries (h : r.Laid first settled) (each : (settled.map (·.channel)).Perm Channel.all) :
    r.channels.entries.map (·.1) = Channel.all := by
  have there : ∀ c, ∃ became, r.channels.get c = some became := by
    intro c
    obtain ⟨x, hx, rfl⟩ := List.mem_map.mp (each.mem_iff.mpr (Channel.mem_all c))
    exact ⟨x.became, h.became x hx⟩
  obtain ⟨staging, hs⟩ := there .staging
  obtain ⟨production, hp⟩ := there .production
  simp [PerChannel.entries, Channel.all, hs, hp]

/-- The record of a publish is that of a settled channel. -/
theorem Laid.exists_settlement (h : r.Laid first settled) (tasks : FirstTasks first) {x : TaskRecord} (hx : x ∈ r.tasks)
    {c : Channel} (publish : x.task = .publish c) : ∃ y ∈ settled, y.channel = c ∧ y.record = x := by
  rw [h.tasks] at hx
  rcases List.mem_append.mp hx with hx | hx
  · have early : x.task ∈ Task.preparation := by
      rw [← tasks.order]
      exact List.mem_map_of_mem hx
    rw [publish] at early
    exact absurd early (Task.publish_not_mem_preparation c)
  · obtain ⟨y, hy, rfl⟩ := List.mem_map.mp hx
    have same : (Task.publish y.channel).channel? = (Task.publish c).channel? := congrArg Task.channel? publish
    rw [Task.channel?_publish, Task.channel?_publish] at same
    exact ⟨y, hy, Option.some.inj same, rfl⟩

end RunReport

namespace Pipeline

variable {σ : Type}

/-! ## How the first tasks of a run ended -/

/-- How the first three tasks ended, by their records. -/
theorem ended_of_laid {r : RunReport} {settled : List Settlement} {classify resolve build verify : TaskStatus}
    {classifyMs resolveMs buildMs verifyMs : UInt64}
    (laid : r.Laid [⟨.classify, classify, classifyMs⟩, ⟨.resolveVersion, resolve, resolveMs⟩, ⟨.build, build, buildMs⟩,
      ⟨.verify, verify, verifyMs⟩] settled) :
    r.ended? .classify = some classify ∧ r.ended? .resolveVersion = some resolve ∧ r.ended? .build = some build := by
  unfold RunReport.ended? RunReport.task?
  rw [laid.tasks]
  exact ⟨rfl, rfl, rfl⟩

/-- The records of the first three tasks tell how far a run came. -/
structure Progressed (p : Pipeline σ) (t : Trigger) (s : σ) (r : RunReport) : Prop where
  context : r.context.isSome = true ↔ r.ended? .classify = some .succeeded
  version : r.version.isSome = true ↔ r.ended? .resolveVersion = some .succeeded
  noVersion : r.version = none ↔
    (r.ended? .classify).any TaskStatus.isFailure = true ∨ (r.ended? .resolveVersion).any TaskStatus.isFailure = true
  set : (∃ context version set s₂, p.Built t s context version set s₂) ↔ r.ended? .build = some .succeeded

/-- Whatever is known of a run is there just when it was built, if it is known of each set that is built. -/
theorem isSome_iff_built {p : Pipeline σ} {t : Trigger} {s : σ} {α : Type} {known : Option α}
    {f : RunContext → ArtifactSet → σ → α}
    (reads : ∀ a, known = some a ↔ ∃ context version set s₂, p.Built t s context version set s₂ ∧ f context set s₂ = a) :
    known.isSome = true ↔ ∃ context version set s₂, p.Built t s context version set s₂ := by
  rw [Option.isSome_iff_exists]
  constructor
  · rintro ⟨a, there⟩
    obtain ⟨context, version, set, s₂, built, -⟩ := (reads a).mp there
    exact ⟨context, version, set, s₂, built⟩
  · rintro ⟨context, version, set, s₂, built⟩
    exact ⟨f context set s₂, (reads _).mpr ⟨context, version, set, s₂, built, rfl⟩⟩

theorem progressed_of_laid {p : Pipeline σ} {t : Trigger} {s : σ} {r : RunReport} {settled : List Settlement}
    {classify resolve build verify : TaskStatus} {classifyMs resolveMs buildMs verifyMs : UInt64}
    (laid : r.Laid [⟨.classify, classify, classifyMs⟩, ⟨.resolveVersion, resolve, resolveMs⟩, ⟨.build, build, buildMs⟩,
      ⟨.verify, verify, verifyMs⟩] settled)
    (context : r.context.isSome = true ↔ classify = .succeeded) (version : r.version.isSome = true ↔ resolve = .succeeded)
    (noVersion : r.version = none ↔ classify.isFailure = true ∨ resolve.isFailure = true)
    (set : (∃ context version set s₂, p.Built t s context version set s₂) ↔ build = .succeeded) : p.Progressed t s r := by
  obtain ⟨classified, resolved, built⟩ := ended_of_laid laid
  constructor
  · rw [context, classified, Option.some.injEq]
  · rw [version, resolved, Option.some.injEq]
  · rw [noVersion, classified, resolved]
    rfl
  · rw [set, built, Option.some.injEq]

/-- However a run ends, the records of its first three tasks tell how far it came. -/
theorem progressed_of_ends {p : Pipeline σ} {id : RunId} {t : Trigger} {s s' : σ}
    {published : List (Channel × Outcome × UInt64)} {progress : Progress} (h : p.Ends id t s published progress s') :
    p.Progressed t s progress.report := by
  obtain ⟨context, version, -⟩ := (reported_of_ends h).1
  cases h with
  | aborted h =>
    have unbuilt : ¬∃ context version set s₂, p.Built t s context version set s₂ := by
      rintro ⟨c, v, set, s₂, built⟩
      exact not_built_of_prepare h c v set s₂ built
    cases prepares_of_prepare h with
    | refused classified =>
      rw [classified] at context version
      refine progressed_of_laid (Progress.laid_abort (Progress.start id (p.now s)) .classify _ _ _) ?_ ?_ ?_
        (iff_of_false unbuilt nofun)
      · simp [context, Except.toOption]
      · simp [version, Except.toOption]
      · simp [version, Except.toOption, TaskStatus.isFailure]
    | @unresolved c e s₁ classified resolved =>
      rw [classified] at context version
      have noVersion : (Resolver.resolve p.source c s).1.toOption = none := by rw [resolved]; rfl
      replace version := version.trans noVersion
      refine progressed_of_laid (Progress.laid_abort (p.atContext id s c) .resolveVersion _ _ _) ?_ ?_ ?_
        (iff_of_false unbuilt nofun)
      · simp [context, Except.toOption]
      · simp [version]
      · simp [version, TaskStatus.isFailure]
    | @unbuilt c v e s₁ s₂ classified resolved built =>
      rw [classified] at context version
      have thisVersion : (Resolver.resolve p.source c s).1.toOption = some v := by rw [resolved]; rfl
      replace version := version.trans thisVersion
      refine progressed_of_laid (Progress.laid_abort (p.atVersion id s s₁ c v) .build _ _ _) ?_ ?_ ?_
        (iff_of_false unbuilt nofun)
      · simp [context, Except.toOption]
      · simp [version]
      · simp [version, TaskStatus.isFailure]
  | concluded h done =>
    cases prepares_of_prepare h with
    | @built c v set s₁ s₂ built resolved =>
      obtain ⟨_, _, _, _, laid⟩ := (concluded_conclude id _ built done).laid
      rw [built.classified] at context version
      have thisVersion : (Resolver.resolve p.source c s).1.toOption = some v := by rw [built.resolved]; rfl
      replace version := version.trans thisVersion
      refine progressed_of_laid laid ?_ ?_ ?_ (iff_of_true ⟨_, _, _, _, built⟩ rfl)
      · simp [context, Except.toOption]
      · simp [version]
      · simp [version, TaskStatus.isFailure]

/-! ## The structure of a report -/

/-- The structure of the report of a run. The context, the version, the verdict and the decision are those of the run, and each is
there just when the record of the task that it comes of says that this succeeded. -/
structure Structured (p : Pipeline σ) (t : Trigger) (s : σ) (r : RunReport) : Prop where
  once : ∀ task, (r.tasks.map (·.task)).count task = 1
  first : FirstTasks (r.tasks.take 4)
  channels : r.channels.entries.map (·.1) = Channel.all
  agrees : ∀ x ∈ r.tasks, ∀ c, x.task = .publish c → ∃ became, r.channels.get c = some became ∧ x.status.AgreesWith became
  skipped : ∀ x ∈ r.tasks, ∀ reason, x.status = .skipped reason → r.verdict = some .pass
  cancelled : ∀ x ∈ r.tasks, x.status = .cancelled → ∃ y ∈ r.tasks.take 4, ∃ reason, y.status = .failed reason
  context : ∀ context, r.context = some context ↔ t.classify = .ok context
  version : ∀ version, r.version = some version ↔
    ∃ context, t.classify = .ok context ∧ (Resolver.resolve p.source context s).1 = .ok version
  verdict : ∀ verdict, r.verdict = some verdict ↔
    ∃ context version set s₂, p.Built t s context version set s₂ ∧ Verifier.verify (p.files s₂) p.cwd set = verdict
  decision : ∀ decision, r.decision = some decision ↔
    ∃ context version set s₂, p.Built t s context version set s₂ ∧
      p.policy.decision context (Verifier.verify (p.files s₂) p.cwd set) = decision
  contextRecorded : r.context.isSome = true ↔ r.ended? .classify = some .succeeded
  versionRecorded : r.version.isSome = true ↔ r.ended? .resolveVersion = some .succeeded
  verdictRecorded : r.verdict.isSome = true ↔ r.ended? .build = some .succeeded
  decisionRecorded : r.decision.isSome = true ↔ r.ended? .build = some .succeeded
  finished : r.finishedAt.isSome = true

/-- A report is structured when the channels that it settles are: each once, with a status that agrees with what became of it,
skipped only after a verification that passed and cancelled only after a failure. -/
theorem structured_of_laid {p : Pipeline σ} {t : Trigger} {s : σ} {r : RunReport} {first : List TaskRecord}
    {settled : List Settlement} (reported : p.Reported t s r) (progressed : p.Progressed t s r) (laid : r.Laid first settled)
    (tasks : FirstTasks first)
    (each : (settled.map (·.channel)).Perm Channel.all) (agrees : ∀ y ∈ settled, y.status.AgreesWith y.became)
    (skipped : ∀ y ∈ settled, ∀ reason, y.status = .skipped reason → r.verdict = some .pass)
    (cancelled : ∀ y ∈ settled, y.status = .cancelled → ∃ reason, .failed reason ∈ first.map (·.status))
    (verdict : ∀ verdict, r.verdict = some verdict ↔
      ∃ context version set s₂, p.Built t s context version set s₂ ∧ p.verdictOn set s₂ = verdict)
    (decision : ∀ decision, r.decision = some decision ↔
      ∃ context version set s₂, p.Built t s context version set s₂ ∧ p.decisionOn context set s₂ = decision) :
    p.Structured t s r where
  once := laid.count_task tasks each
  first := by
    rw [laid.take_tasks tasks]
    exact tasks
  channels := laid.entries each
  agrees := by
    intro x hx c publish
    obtain ⟨y, hy, rfl, rfl⟩ := laid.exists_settlement tasks hx publish
    exact ⟨y.became, laid.became y hy, agrees y hy⟩
  skipped := by
    intro x hx reason hs
    rw [laid.tasks] at hx
    rcases List.mem_append.mp hx with hx | hx
    · have early : .skipped reason ∈ first.map (·.status) := by
        rw [← hs]
        exact List.mem_map_of_mem hx
      exact absurd early (tasks.sequence.not_skipped reason)
    · obtain ⟨y, hy, rfl⟩ := List.mem_map.mp hx
      exact skipped y hy reason hs
  cancelled := by
    intro x hx hc
    rw [laid.take_tasks tasks]
    have failure : ∃ reason, .failed reason ∈ first.map (·.status) := by
      rw [laid.tasks] at hx
      rcases List.mem_append.mp hx with hx | hx
      · refine tasks.sequence.failure_of_cancelled ?_
        rw [← hc]
        exact List.mem_map_of_mem hx
      · obtain ⟨y, hy, rfl⟩ := List.mem_map.mp hx
        exact cancelled y hy hc
    obtain ⟨reason, hr⟩ := failure
    obtain ⟨y, hy, status⟩ := List.mem_map.mp hr
    exact ⟨y, hy, reason, status⟩
  context := by
    intro context
    rw [reported.context]
    cases t.classify <;> simp [Except.toOption]
  version := by
    intro version
    rw [reported.version]
    cases t.classify with
    | error e => simp [Except.toOption]
    | ok context => cases h : (Resolver.resolve p.source context s).1 <;> simp [Except.toOption, h]
  verdict := verdict
  decision := decision
  contextRecorded := progressed.context
  versionRecorded := progressed.version
  verdictRecorded := (isSome_iff_built verdict).trans progressed.set
  decisionRecorded := (isSome_iff_built decision).trans progressed.set
  finished := reported.finished

/-- A run that one of its first tasks ended settles both channels as cancelled. -/
theorem structured_of_aborted {p : Pipeline σ} {t : Trigger} {s : σ} {r : RunReport} (reported : p.Reported t s r)
    (progressed : p.Progressed t s r) (aborted : p.Aborted t s r) : p.Structured t s r := by
  obtain ⟨first, failed, tasks, failure, laid⟩ := aborted.laid
  refine structured_of_laid reported progressed laid tasks (.refl _) ?_ ?_ ?_ ?_ ?_
  · intro y hy
    obtain ⟨c, -, rfl⟩ := List.mem_map.mp hy
    exact Settlement.agrees_cancelled failed c
  · intro y hy reason hs
    obtain ⟨c, -, rfl⟩ := List.mem_map.mp hy
    cases hs
  · intro y hy hc
    obtain ⟨x, hx, hf⟩ := failure
    obtain ⟨reason, hr⟩ : ∃ reason, x.status = .failed reason := by
      cases hs : x.status <;> simp [hs, TaskStatus.isFailure] at hf ⊢
    exact ⟨reason, hr ▸ List.mem_map_of_mem hx⟩
  · intro verdict
    rw [aborted.verdict]
    refine iff_of_false nofun ?_
    rintro ⟨context, version, set, s₂, built, -⟩
    exact aborted.unbuilt context version set s₂ built
  · intro decision
    rw [aborted.decision]
    refine iff_of_false nofun ?_
    rintro ⟨context, version, set, s₂, built, -⟩
    exact aborted.unbuilt context version set s₂ built

/-- The first four tasks of a run that reached the gate ended in sequence, however its verification ended. -/
theorem firstTasks_of_verdict (verdict : Verdict) (classify resolve build verify : UInt64) :
    FirstTasks
      [⟨.classify, .succeeded, classify⟩, ⟨.resolveVersion, .succeeded, resolve⟩, ⟨.build, .succeeded, build⟩,
        ⟨.verify, statusOf verdict, verify⟩] := by
  refine ⟨rfl, .succeeded (.succeeded (.succeeded ?_))⟩
  cases verdict with
  | pass => exact .succeeded .nothing
  | fail issues => exact .failed nofun

/-- A run that reached the gate settles the channels that are not authorized there, and the others as they are published to. -/
theorem structured_of_concluded {p : Pipeline σ} {t : Trigger} {s s₂ : σ} {r : RunReport} {context : RunContext}
    {version : Version} {set : ArtifactSet} {published : List (Channel × Outcome × UInt64)} (reported : p.Reported t s r)
    (progressed : p.Progressed t s r) (concluded : p.Concluded t s context version set s₂ published r) : p.Structured t s r := by
  obtain ⟨classify, resolve, build, verify, laid⟩ := concluded.laid
  obtain ⟨s₃, done⟩ := concluded.done
  have settled : ∀ y ∈ unauthorized context (p.decisionOn context set s₂) (p.verdictOn set s₂).passed
      ++ published.map Settlement.ofOutcome,
      (∃ c, y = Settlement.unauthorized context (p.decisionOn context set s₂) (p.verdictOn set s₂).passed c) ∨
        ∃ x, y = Settlement.ofOutcome x := by
    intro y hy
    rcases List.mem_append.mp hy with hy | hy
    · obtain ⟨c, -, rfl⟩ := List.mem_map.mp hy
      exact .inl ⟨c, rfl⟩
    · obtain ⟨x, -, rfl⟩ := List.mem_map.mp hy
      exact .inr ⟨x, rfl⟩
  refine structured_of_laid reported progressed laid (firstTasks_of_verdict _ _ _ _ _) (perm_settled_channels done context _)
    ?_ ?_ ?_ ?_ ?_
  · intro y hy
    obtain ⟨c, rfl⟩ | ⟨x, rfl⟩ := settled y hy
    · exact Settlement.agrees_unauthorized _ _ _ c
    · exact Settlement.agrees_ofOutcome x
  · intro y hy reason hs
    rw [concluded.verdict]
    obtain ⟨c, rfl⟩ | ⟨x, rfl⟩ := settled y hy
    · cases e : p.verdictOn set s₂ with
      | pass => rfl
      | fail issues =>
        rw [e] at hs
        cases hs
    · obtain ⟨c, outcome, durationMs⟩ := x
      cases outcome <;> cases hs
  · intro y hy hc
    obtain ⟨c, rfl⟩ | ⟨x, rfl⟩ := settled y hy
    · cases e : p.verdictOn set s₂ with
      | pass =>
        rw [e] at hc
        cases hc
      | fail issues => exact ⟨_, List.mem_cons_of_mem _ (List.mem_cons_of_mem _ (List.mem_cons_of_mem _ List.mem_cons_self))⟩
    · obtain ⟨c, outcome, durationMs⟩ := x
      cases outcome <;> cases hc
  · intro verdict
    rw [concluded.verdict, Option.some.injEq]
    constructor
    · rintro rfl
      exact ⟨context, version, set, s₂, concluded.built, rfl⟩
    · rintro ⟨context', version', set', s₂', built, rfl⟩
      obtain ⟨rfl, rfl, rfl, rfl⟩ := concluded.built.unique built
      rfl
  · intro decision
    rw [concluded.decision, Option.some.injEq]
    constructor
    · rintro rfl
      exact ⟨context, version, set, s₂, concluded.built, rfl⟩
    · rintro ⟨context', version', set', s₂', built, rfl⟩
      obtain ⟨rfl, rfl, rfl, rfl⟩ := concluded.built.unique built
      rfl

/-- Every run ends with a structured report, whatever its trigger is and its source, builder, issuer and registry answer, and
whichever way its publishes fall between each other. -/
theorem structured_of_ends {p : Pipeline σ} {id : RunId} {t : Trigger} {s s' : σ}
    {published : List (Channel × Outcome × UInt64)} {progress : Progress} (h : p.Ends id t s published progress s') :
    p.Structured t s progress.report := by
  have progressed := progressed_of_ends h
  obtain ⟨reported, ⟨-, aborted⟩ | ⟨context, version, set, s₂, concluded⟩⟩ := reported_of_ends h
  · exact structured_of_aborted reported progressed aborted
  · exact structured_of_concluded reported progressed concluded

/-- The report of the release of the widget is structured. -/
theorem structured_of_ends_release :
    ∃ published, Widget.pipeline.Ends Widget.runId Widget.release {} published
        (Widget.pipeline.run Widget.runId Widget.release {}).1 (Widget.pipeline.run Widget.runId Widget.release {}).2 ∧
      Widget.pipeline.Structured Widget.release {} (Widget.pipeline.run Widget.runId Widget.release {}).1.report := by
  obtain ⟨published, ends⟩ := ends_run Widget.pipeline Widget.runId Widget.release {}
  exact ⟨published, ends, structured_of_ends ends⟩

end Pipeline

end ReleaseGate
