import ReleaseGate.Proofs.Run.Course

/-!
# What the report of a run records

A run settles each channel once: the task that publishes to it is recorded, and what became of the channel is set, in one go.
`Laid` says that a report consists of the records of the first four tasks and of such settlements; `Laid.settle` is what one
settlement preserves, and `Laid.settleAll` what a list of them does. From these `reported_of_ends` reads off, for each way in
which a run can end, everything its report says.
-/

namespace ReleaseGate

/-! ## Settling the channels -/

/-- How a publish ended and what became of its channel tell the same: a success is a channel that was published to or had the set
already, a failure is a failure for the same reason, and what was not run is a channel that was not attempted. -/
structure TaskStatus.AgreesWith (status : TaskStatus) (became : ChannelStatus) : Prop where
  succeeded : status = .succeeded ↔ became = .published .succeeded ∨ became = .published .skippedExisting
  failed : ∀ reason, status = .failed reason ↔ became = .failed reason
  notRun : (status = .cancelled ∨ ∃ reason, status = .skipped reason) ↔ ∃ reason, became = .notAttempted reason

/-- How a run leaves a channel: how the task that publishes to it ended, and what became of the channel. -/
structure Settlement where
  channel : Channel
  status : TaskStatus
  became : ChannelStatus
  durationMs : UInt64

namespace Settlement

/-- The record of the task that publishes to the channel. -/
def record (x : Settlement) : TaskRecord := ⟨.publish x.channel, x.status, x.durationMs⟩

/-- A channel that was published to. -/
def ofOutcome (published : Channel × Outcome × UInt64) : Settlement :=
  ⟨published.1, .ofOutcome published.2.1, .ofOutcome published.2.1, published.2.2⟩

/-- A channel that the decision does not authorize. -/
def unauthorized (context : RunContext) (decision : Decision) (verified : Bool) (c : Channel) : Settlement :=
  let reason := Pipeline.unauthorizedText context decision c
  ⟨c, if verified then .skipped reason else .cancelled, .notAttempted reason, 0⟩

/-- A channel of a run that one of the first tasks ended. -/
def cancelled (failed : Task) (c : Channel) : Settlement := ⟨c, .cancelled, .notAttempted s!"{failed.name} failed", 0⟩

theorem agrees_ofOutcome (published : Channel × Outcome × UInt64) :
    (ofOutcome published).status.AgreesWith (ofOutcome published).became := by
  obtain ⟨c, outcome, durationMs⟩ := published
  cases outcome <;> constructor <;> simp [ofOutcome, TaskStatus.ofOutcome, ChannelStatus.ofOutcome]

theorem agrees_unauthorized (context : RunContext) (decision : Decision) (verified : Bool) (c : Channel) :
    (unauthorized context decision verified c).status.AgreesWith (unauthorized context decision verified c).became := by
  cases verified <;> constructor <;> simp [unauthorized]

theorem agrees_cancelled (failed : Task) (c : Channel) : (cancelled failed c).status.AgreesWith (cancelled failed c).became := by
  constructor <;> simp [cancelled]

end Settlement

namespace RunReport

/-- The report with a channel settled. -/
def settle (r : RunReport) (x : Settlement) : RunReport :=
  (r.recordTask (.publish x.channel) x.status x.durationMs).setChannel x.channel x.became

/-- Settling channels changes nothing but the tasks and the channels of a report. -/
theorem settleAll_eq {α : Type} (f : RunReport → α) (h : ∀ r x, f (r.settle x) = f r) (xs : List Settlement) (r : RunReport) :
    f (xs.foldl settle r) = f r := by
  induction xs generalizing r with
  | nil => rfl
  | cons x rest ih => rw [List.foldl_cons, ih, h]

/-- A report has the records of some first tasks and then those of settled channels, and shows what became of the channels. -/
structure Laid (r : RunReport) (first : List TaskRecord) (settled : List Settlement) : Prop where
  tasks : r.tasks = first ++ settled.map Settlement.record
  became : ∀ x ∈ settled, r.channels.get x.channel = some x.became

/-- What a report lays out is in its tasks and channels alone. -/
theorem Laid.congr {r r' : RunReport} {first : List TaskRecord} {settled : List Settlement} (h : r.Laid first settled)
    (tasks : r'.tasks = r.tasks) (channels : r'.channels = r.channels) : r'.Laid first settled := by
  refine ⟨tasks.trans h.tasks, fun x hx => ?_⟩
  rw [channels]
  exact h.became x hx

/-- Settling one more channel leaves those that are settled as they are. -/
theorem Laid.settle {r : RunReport} {first : List TaskRecord} {settled : List Settlement} {x : Settlement}
    (h : r.Laid first settled) (fresh : x.channel ∉ settled.map (·.channel)) : (r.settle x).Laid first (settled ++ [x]) := by
  constructor
  · show r.tasks ++ [x.record] = _
    rw [h.tasks, List.map_append, List.append_assoc]
    rfl
  · intro y hy
    show (r.channels.set x.channel (some x.became)).get y.channel = some y.became
    rw [PerChannel.get_set]
    rcases List.mem_append.mp hy with hy | hy
    · rw [if_neg, h.became y hy]
      intro same
      exact fresh (same ▸ List.mem_map_of_mem hy)
    · obtain rfl := List.mem_singleton.mp hy
      rw [if_pos rfl]

/-- Settling channels that are different and not settled yet adds them to those that are. -/
theorem Laid.settleAll {first : List TaskRecord} {settled more : List Settlement}
    (different : ((settled ++ more).map (·.channel)).Nodup) {r : RunReport} (h : r.Laid first settled) :
    (more.foldl RunReport.settle r).Laid first (settled ++ more) := by
  induction more generalizing r settled with
  | nil => simpa using h
  | cons x rest ih =>
    have fresh : x.channel ∉ settled.map (·.channel) := by
      intro already
      rw [List.map_append, List.nodup_append] at different
      exact different.2.2 _ already _ (List.mem_cons_self) rfl
    rw [List.append_cons] at different ⊢
    exact ih different (h.settle fresh)

end RunReport

/-! ## The first tasks -/

/-- How tasks that run one after another end: some succeed, then one may fail, and those after it are cancelled. -/
inductive InSequence : List TaskStatus → Prop where
  | nothing : InSequence []
  | succeeded {rest : List TaskStatus} (h : InSequence rest) : InSequence (.succeeded :: rest)
  | failed {reason : String} {rest : List TaskStatus} (h : ∀ status ∈ rest, status = .cancelled) :
      InSequence (.failed reason :: rest)

/-- In a sequence, what was cancelled was cancelled for a failure. -/
theorem InSequence.failure_of_cancelled {statuses : List TaskStatus} (h : InSequence statuses) (cancelled : .cancelled ∈ statuses) :
    ∃ reason, .failed reason ∈ statuses := by
  induction h with
  | nothing => cases cancelled
  | succeeded _ ih =>
    obtain ⟨reason, later⟩ := ih (by simpa using cancelled)
    exact ⟨reason, List.mem_cons_of_mem _ later⟩
  | @failed reason _ _ => exact ⟨reason, List.mem_cons_self⟩

/-- No task in a sequence is skipped. -/
theorem InSequence.not_skipped {statuses : List TaskStatus} (h : InSequence statuses) (reason : String) :
    .skipped reason ∉ statuses := by
  induction h with
  | nothing => exact List.not_mem_nil
  | succeeded _ ih => simpa using ih
  | failed later =>
    intro skipped
    rcases List.mem_cons.mp skipped with same | skipped
    · cases same
    · cases later _ skipped

/-- The records of the first four tasks: one of each, in order, that ended in sequence. -/
structure FirstTasks (first : List TaskRecord) : Prop where
  order : first.map (·.task) = Task.preparation
  sequence : InSequence (first.map (·.status))

namespace Progress

/-- The record of a task that was cancelled. -/
def cancelledRecord (task : Task) : TaskRecord := ⟨task, .cancelled, 0⟩

theorem report_cancelAll (tasks : List Task) (p : Progress) :
    (tasks.foldl (fun p task => p.record task .cancelled 0) p).report =
      { p.report with tasks := p.report.tasks ++ tasks.map cancelledRecord } := by
  induction tasks generalizing p with
  | nil => simp
  | cons task rest ih =>
    rw [List.foldl_cons, ih]
    simp [record, RunReport.recordTask, cancelledRecord]

/-- The report of a run that one of its first tasks ended. -/
theorem report_abort (p : Progress) (failed : Task) (e : Failure) (durationMs : UInt64) (now : Timestamp) :
    (p.abort failed e durationMs now).report =
      { p.report with
        tasks := p.report.tasks ++ ⟨failed, .failed e.message, durationMs⟩ :: (remaining failed).map cancelledRecord
        channels := .both (some (.notAttempted s!"{failed.name} failed"))
        error := some e.labelled
        finishedAt := some now } := by
  simp only [abort, finish, note, RunReport.finish, report_cancelAll]
  simp [record, tell, RunReport.recordTask]

/-- The records of a run that one of its first tasks ended, up to the publishes: those of the tasks before, that of the task that
failed, and those of the tasks that it leaves undone. -/
def recordsOfAbort (p : Progress) (failed : Task) (e : Failure) (durationMs : UInt64) : List TaskRecord :=
  p.report.tasks ++ ⟨failed, .failed e.message, durationMs⟩ ::
    ((Task.preparation.dropWhile (· != failed)).drop 1).map cancelledRecord

theorem laid_abort (p : Progress) (failed : Task) (e : Failure) (durationMs : UInt64) (now : Timestamp) :
    (p.abort failed e durationMs now).report.Laid (p.recordsOfAbort failed e durationMs)
      (Channel.all.map (Settlement.cancelled failed)) := by
  rw [report_abort]
  constructor
  · have publishes : (Channel.all.map Task.publish).map cancelledRecord =
        (Channel.all.map (Settlement.cancelled failed)).map Settlement.record := rfl
    rw [recordsOfAbort, remaining, List.map_append, publishes, List.append_assoc, List.cons_append]
  · intro x hx
    obtain ⟨c, -, rfl⟩ := List.mem_map.mp hx
    cases c <;> rfl

end Progress

namespace Pipeline

variable {σ : Type}

/-! ## What the report of every run says -/

/-- The failure that a decision makes of a run: that of its verification, where it would have published otherwise. -/
def fatalError? (decision : Decision) : Option String :=
  match decision.reason? with
  | some (.verificationFailed issues) => some (Failure.verification issues).labelled
  | _ => none

/-- The settlements of the channels that a decision does not authorize. -/
def unauthorized (context : RunContext) (decision : Decision) (verified : Bool) : List Settlement :=
  (Channel.all.filter fun c => !decision.allows c).map (Settlement.unauthorized context decision verified)

/-- The report of a run that one of its first three tasks ended. -/
structure Aborted (p : Pipeline σ) (t : Trigger) (s : σ) (r : RunReport) : Prop where
  unbuilt : ∀ context version set s', ¬p.Built t s context version set s'
  verdict : r.verdict = none
  decision : r.decision = none
  error : r.error.isSome = true
  laid : ∃ first failed, FirstTasks first ∧ (∃ x ∈ first, x.status.isFailure = true) ∧
    r.Laid first (Channel.all.map (Settlement.cancelled failed))

/-- The report of a run that reached the gate with a set, in the state after its build. -/
structure Concluded (p : Pipeline σ) (t : Trigger) (s : σ) (context : RunContext) (version : Version) (set : ArtifactSet) (s₂ : σ)
    (published : List (Channel × Outcome × UInt64)) (r : RunReport) : Prop where
  built : p.Built t s context version set s₂
  done : ∃ s₃, p.Published set (p.decisionOn context set s₂) s₂ published s₃
  verdict : r.verdict = some (p.verdictOn set s₂)
  decision : r.decision = some (p.decisionOn context set s₂)
  error : r.error = fatalError? (p.decisionOn context set s₂)
  laid : ∃ classify resolve build verify,
    r.Laid
      [⟨.classify, .succeeded, classify⟩, ⟨.resolveVersion, .succeeded, resolve⟩, ⟨.build, .succeeded, build⟩,
        ⟨.verify, statusOf (p.verdictOn set s₂), verify⟩]
      (unauthorized context (p.decisionOn context set s₂) (p.verdictOn set s₂).passed ++ published.map Settlement.ofOutcome)

/-- What the report of every run says of its first two tasks and of its end. -/
structure Reported (p : Pipeline σ) (t : Trigger) (s : σ) (r : RunReport) : Prop where
  context : r.context = t.classify.toOption
  version : r.version = t.classify.toOption.bind fun context => (Resolver.resolve p.source context s).1.toOption
  finished : r.finishedAt.isSome = true

theorem report_recordFatal (decision : Decision) (p : Progress) :
    (recordFatal decision p).report = { p.report with error := (fatalError? decision).or p.report.error } := by
  unfold recordFatal fatalError?
  cases decision.reason? with
  | none => rfl
  | some reason => cases reason <;> rfl

theorem report_recordUnauthorized (context : RunContext) (decision : Decision) (verified : Bool) (cs : List Channel) (p : Progress) :
    (cs.foldl (recordUnauthorized context decision verified) p).report =
      (cs.map (Settlement.unauthorized context decision verified)).foldl RunReport.settle p.report := by
  induction cs generalizing p with
  | nil => rfl
  | cons c rest ih =>
    rw [List.foldl_cons, ih, List.map_cons, List.foldl_cons]
    rfl

theorem report_recordPublish (published : List (Channel × Outcome × UInt64)) (p : Progress) :
    (published.foldl recordPublish p).report = (published.map Settlement.ofOutcome).foldl RunReport.settle p.report := by
  induction published generalizing p with
  | nil => rfl
  | cons x rest ih =>
    rw [List.foldl_cons, ih, List.map_cons, List.foldl_cons]
    rfl

/-- The report at the gate, with the verdict and the decision noted and no channel settled. -/
def atGate (p : Pipeline σ) (progress : Progress) (context : RunContext) (set : ArtifactSet) (s : σ) : RunReport :=
  { progress.report.recordTask .verify (statusOf (p.verdictOn set s)) (p.elapsed s s) with
    verdict := some (p.verdictOn set s)
    decision := some (p.decisionOn context set s) }

/-- Past the gate the channels that are not authorized are settled, and a failure of verification that kept the run from
publishing is its failure. -/
theorem report_decide (p : Pipeline σ) (progress : Progress) (context : RunContext) (set : ArtifactSet) (s : σ) :
    (p.decide progress context set s).progress.report =
      let settled :=
        (unauthorized context (p.decisionOn context set s) (p.verdictOn set s).passed).foldl RunReport.settle
          (p.atGate progress context set s)
      { settled with error := (fatalError? (p.decisionOn context set s)).or settled.error } := by
  unfold decide
  rw [report_recordFatal, report_recordUnauthorized]
  rfl

theorem report_conclude (prepared : Prepared) (published : List (Channel × Outcome × UInt64)) (now : Timestamp) :
    (conclude prepared published now).report =
      ((published.map Settlement.ofOutcome).foldl RunReport.settle prepared.progress.report).finish now := by
  unfold conclude Progress.finish
  rw [report_recordPublish]

/-- Each channel is either authorized or not. -/
theorem perm_unauthorized_channels (d : Decision) : ((Channel.all.filter fun c => !d.allows c) ++ d.channels).Perm Channel.all := by
  cases d with
  | noPublish reason => exact .refl _
  | stagingOnly => decide
  | stagingAndProduction => decide

/-- A run settles each channel once: those that are not authorized at the gate, the others as they are published to. -/
theorem perm_settled_channels {p : Pipeline σ} {set : ArtifactSet} {d : Decision} {s s' : σ}
    {published : List (Channel × Outcome × UInt64)} (done : p.Published set d s published s') (context : RunContext)
    (verified : Bool) :
    ((unauthorized context d verified ++ published.map Settlement.ofOutcome).map (·.channel)).Perm Channel.all := by
  have closed : (unauthorized context d verified).map (·.channel) = Channel.all.filter fun c => !d.allows c := by
    rw [unauthorized, List.map_map]
    exact List.map_id _
  have opened : (published.map Settlement.ofOutcome).map (·.channel) = d.channels := by
    rw [List.map_map, ← done.channels]
    rfl
  rw [List.map_append, closed, opened]
  exact perm_unauthorized_channels d

/-- What is neither a task nor a channel, nor the end of a run, is in the report as it was at the gate. -/
theorem conclude_keeps {α : Type} {f : RunReport → α} (settle : ∀ r x, f (r.settle x) = f r)
    (close : ∀ (r : RunReport) error finishedAt, f { r with error, finishedAt } = f r) (p : Pipeline σ) (progress : Progress)
    (context : RunContext) (set : ArtifactSet) (s : σ) (published : List (Channel × Outcome × UInt64)) (now : Timestamp) :
    f (conclude (p.decide progress context set s) published now).report = f (p.atGate progress context set s) := by
  calc f (conclude (p.decide progress context set s) published now).report
    _ = f ((published.map Settlement.ofOutcome).foldl RunReport.settle (p.decide progress context set s).progress.report) := by
        rw [report_conclude]
        exact close _ _ _
    _ = f (p.decide progress context set s).progress.report := RunReport.settleAll_eq f settle _ _
    _ = f ((unauthorized context (p.decisionOn context set s) (p.verdictOn set s).passed).foldl RunReport.settle
          (p.atGate progress context set s)) := by
        rw [report_decide]
        exact close _ _ _
    _ = f (p.atGate progress context set s) := RunReport.settleAll_eq f settle _ _

/-- The failure of a run that reached the gate is the one that its decision makes. -/
theorem error_conclude (p : Pipeline σ) (progress : Progress) (context : RunContext) (set : ArtifactSet) (s : σ)
    (published : List (Channel × Outcome × UInt64)) (now : Timestamp) :
    (conclude (p.decide progress context set s) published now).report.error =
      (fatalError? (p.decisionOn context set s)).or progress.report.error := by
  have keeps := RunReport.settleAll_eq RunReport.error fun _ _ => rfl
  calc (conclude (p.decide progress context set s) published now).report.error
    _ = (p.decide progress context set s).progress.report.error := by
        rw [report_conclude]
        exact keeps _ _
    _ = (fatalError? (p.decisionOn context set s)).or progress.report.error := by
        rw [report_decide]
        exact congrArg (Option.or _) (keeps _ _)

/-- A run that reached the gate has the records of its first four tasks, and each channel is settled. -/
theorem laid_conclude {p : Pipeline σ} {progress : Progress} {context : RunContext} {set : ArtifactSet} {s s' : σ}
    {published : List (Channel × Outcome × UInt64)} (done : p.Published set (p.decisionOn context set s) s published s')
    (now : Timestamp) :
    (conclude (p.decide progress context set s) published now).report.Laid
      (progress.report.tasks ++ [⟨.verify, statusOf (p.verdictOn set s), p.elapsed s s⟩])
      (unauthorized context (p.decisionOn context set s) (p.verdictOn set s).passed ++ published.map Settlement.ofOutcome) := by
  have different := (perm_settled_channels done context (p.verdictOn set s).passed).nodup_iff.mpr (by decide)
  have atGate : (p.atGate progress context set s).Laid
      (progress.report.tasks ++ [⟨.verify, statusOf (p.verdictOn set s), p.elapsed s s⟩]) [] :=
    ⟨(List.append_nil _).symm, nofun⟩
  have pastGate : (p.decide progress context set s).progress.report.Laid
      (progress.report.tasks ++ [⟨.verify, statusOf (p.verdictOn set s), p.elapsed s s⟩])
      (unauthorized context (p.decisionOn context set s) (p.verdictOn set s).passed) := by
    rw [List.map_append] at different
    rw [report_decide]
    exact (atGate.settleAll (List.nodup_append.mp different).1).congr rfl rfl
  rw [report_conclude]
  exact (pastGate.settleAll different).congr rfl rfl

theorem concluded_conclude {p : Pipeline σ} {t : Trigger} {s s₁ s₂ s₃ : σ} {context : RunContext} {version : Version}
    {set : ArtifactSet} {published : List (Channel × Outcome × UInt64)} (id : RunId) (now : Timestamp)
    (built : p.Built t s context version set s₂) (done : p.Published set (p.decisionOn context set s₂) s₂ published s₃) :
    p.Concluded t s context version set s₂ published
      (conclude (p.decide (p.atSet id s s₁ s₂ context version set) context set s₂) published now).report where
  built := built
  done := ⟨s₃, done⟩
  verdict := conclude_keeps (f := RunReport.verdict) (fun _ _ => rfl) (fun _ _ _ => rfl) ..
  decision := conclude_keeps (f := RunReport.decision) (fun _ _ => rfl) (fun _ _ _ => rfl) ..
  error := by
    rw [error_conclude]
    exact Option.or_none
  laid := ⟨_, _, _, _, laid_conclude done now⟩

/-- A run whose set is built publishes by its decision, and its report says what became of it. -/
theorem concluded_of_ends {p : Pipeline σ} {id : RunId} {t : Trigger} {s s₂ s' : σ} {context : RunContext}
    {version : Version} {set : ArtifactSet} {published : List (Channel × Outcome × UInt64)} {progress : Progress}
    (built : p.Built t s context version set s₂) (h : p.Ends id t s published progress s') :
    p.Published set (p.decisionOn context set s₂) s₂ published s' ∧
      p.Concluded t s context version set s₂ published progress.report ∧ progress.report.version = some version := by
  have prepared := prepare_of_built built id
  cases h with
  | aborted h =>
    rw [prepared] at h
    cases h
  | concluded h done =>
    rw [prepared] at h
    obtain ⟨same, rfl⟩ := Prod.mk.inj h
    obtain rfl := Except.ok.inj same
    refine ⟨done, concluded_conclude id _ built done, ?_⟩
    exact conclude_keeps (f := RunReport.version) (fun _ _ => rfl) (fun _ _ _ => rfl) ..

/-- A run that one of its first tasks ended has no verdict and no decision, and both channels are settled as cancelled. -/
theorem aborted_abort {p : Pipeline σ} {t : Trigger} {s : σ} {progress : Progress} {failed : Task} {e : Failure}
    {durationMs : UInt64} {now : Timestamp} (unbuilt : ∀ context version set s', ¬p.Built t s context version set s')
    (untouched : progress.report.verdict = none ∧ progress.report.decision = none)
    (first : FirstTasks (progress.recordsOfAbort failed e durationMs)) :
    p.Aborted t s (progress.abort failed e durationMs now).report := by
  have failure : ∃ x ∈ progress.recordsOfAbort failed e durationMs, x.status.isFailure = true :=
    ⟨_, List.mem_append_right _ List.mem_cons_self, rfl⟩
  have laid := progress.laid_abort failed e durationMs now
  rw [Progress.report_abort] at laid ⊢
  exact ⟨unbuilt, untouched.1, untouched.2, rfl, ⟨_, failed, first, failure, laid⟩⟩

theorem reported_abort {p : Pipeline σ} {t : Trigger} {s : σ} {progress : Progress} {failed : Task} {e : Failure}
    {durationMs : UInt64} {now : Timestamp} (context : progress.report.context = t.classify.toOption)
    (version : progress.report.version =
      t.classify.toOption.bind fun context => (Resolver.resolve p.source context s).1.toOption) :
    p.Reported t s (progress.abort failed e durationMs now).report := by
  rw [Progress.report_abort]
  exact ⟨context, version, rfl⟩

/-- The ways in which a run can end, by what its report says: one of the first three tasks ended it, or it reached the gate with
a set. -/
theorem reported_of_ends {p : Pipeline σ} {id : RunId} {t : Trigger} {s s' : σ}
    {published : List (Channel × Outcome × UInt64)} {progress : Progress} (h : p.Ends id t s published progress s') :
    p.Reported t s progress.report ∧
      (published = [] ∧ p.Aborted t s progress.report ∨
        ∃ context version set s₂, p.Concluded t s context version set s₂ published progress.report) := by
  cases h with
  | aborted h =>
    have unbuilt := not_built_of_prepare h
    cases prepares_of_prepare h with
    | refused classified =>
      refine ⟨reported_abort ?_ ?_, .inl ⟨rfl, aborted_abort unbuilt ⟨rfl, rfl⟩ ⟨?_, ?_⟩⟩⟩
      · rw [classified]
        rfl
      · rw [classified]
        rfl
      · rfl
      · exact .failed (by decide)
    | unresolved classified resolved =>
      refine ⟨reported_abort ?_ ?_, .inl ⟨rfl, aborted_abort unbuilt ⟨rfl, rfl⟩ ⟨?_, ?_⟩⟩⟩
      · rw [classified]
        rfl
      · rw [classified]
        show none = (Resolver.resolve p.source _ s).1.toOption
        rw [resolved]
        rfl
      · rfl
      · exact .succeeded (.failed (by decide))
    | unbuilt classified resolved built =>
      refine ⟨reported_abort ?_ ?_, .inl ⟨rfl, aborted_abort unbuilt ⟨rfl, rfl⟩ ⟨?_, ?_⟩⟩⟩
      · rw [classified]
        rfl
      · rw [classified]
        show some _ = (Resolver.resolve p.source _ s).1.toOption
        rw [resolved]
        rfl
      · rfl
      · exact .succeeded (.succeeded (.failed (by decide)))
  | concluded h done =>
    cases prepares_of_prepare h with
    | @built context version set s₁ _ built resolved =>
      refine ⟨⟨?_, ?_, ?_⟩, .inr ⟨_, _, _, _, concluded_conclude id _ built done⟩⟩
      · rw [built.classified]
        exact conclude_keeps (f := RunReport.context) (fun _ _ => rfl) (fun _ _ _ => rfl) ..
      · rw [built.classified]
        show _ = (Resolver.resolve p.source context s).1.toOption
        rw [built.resolved]
        exact conclude_keeps (f := RunReport.version) (fun _ _ => rfl) (fun _ _ _ => rfl) ..
      · rw [report_conclude]
        rfl

end Pipeline

end ReleaseGate
