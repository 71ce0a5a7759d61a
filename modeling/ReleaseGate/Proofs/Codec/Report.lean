import ReleaseGate.Codec.Report
import ReleaseGate.Proofs.Codec.Domain
import ReleaseGate.Proofs.Codec.Identity

/-!
# Stored reports are read back

A report is read back from its text (`report?_reportText`): every field from what is stored for it, the channels from the members of
an object that are named after them, and what may be missing from null.
-/

namespace ReleaseGate.Codec

open Json

theorem readsBack_timestamp : ReadsBack ofTimestamp timestamp? := readsBack_spelled Timestamp.parse?_print

theorem readsBack_runId : ReadsBack ofRunId runId? := readsBack_spelled RunId.parse?_print

theorem readsBack_task : ReadsBack ofTask task? := readsBack_named Task.ofName?_name

theorem readsBack_taskStatus : ReadsBack ofTaskStatus taskStatus? := by
  have apart : "status" ≠ "detail" := by decide
  refine ⟨fun s => ?_, fun s => ?_, fun s => ?_⟩
  · cases s <;> simp [ofTaskStatus]
  · cases s <;> nofun
  · cases s with
    | succeeded => rw [ofTaskStatus, taskStatus?, tagged?_bare apart]; rfl
    | failed reason => simp [ofTaskStatus, taskStatus?, tagged?_content apart, readsBack_text.read]
    | skipped reason => simp [ofTaskStatus, taskStatus?, tagged?_content apart, readsBack_text.read]
    | cancelled => rw [ofTaskStatus, taskStatus?, tagged?_bare apart]; rfl

theorem readsBack_taskRecord : ReadsBack ofTaskRecord taskRecord? := by
  refine ⟨fun t => ?_, nofun, fun t => ?_⟩
  · simp [ofTaskRecord, readsBack_task.plain, readsBack_taskStatus.plain, ofWord]
  · have fields : fields? ["task", "status", "duration_ms"] (ofTaskRecord t) =
        some [some (ofTask t.task), some (ofTaskStatus t.status), some (ofWord t.durationMs)] := fields?_object rfl (by decide)
    have duration : word? (ofWord t.durationMs) = some t.durationMs := readsBack_word.read t.durationMs
    rw [taskRecord?, fields]
    simp [readsBack_task.read, readsBack_taskStatus.read, duration]

theorem readsBack_channelStatus : ReadsBack ofChannelStatus channelStatus? := by
  have apart : "status" ≠ "detail" := by decide
  refine ⟨fun s => ?_, fun s => ?_, fun s => ?_⟩
  · cases s <;> simp [ofChannelStatus, readsBack_outcome.plain]
  · cases s <;> nofun
  · cases s with
    | notAttempted reason => simp [ofChannelStatus, channelStatus?, tagged?_content apart, readsBack_text.read]
    | published outcome => simp [ofChannelStatus, channelStatus?, tagged?_content apart, readsBack_outcome.read]
    | failed reason => simp [ofChannelStatus, channelStatus?, tagged?_content apart, readsBack_text.read]
    | cancelled => rw [ofChannelStatus, channelStatus?, tagged?_bare apart]; rfl

/-- The channels are read back one after the other, each into its own place. -/
theorem readsBack_channels : ReadsBack ofChannels channels? := by
  refine ⟨fun p => ?_, nofun, fun p => ?_⟩
  · refine (plain_object_iff _).mpr fun m hm => ?_
    obtain ⟨⟨c, status⟩, -, rfl⟩ := List.mem_map.mp hm
    exact readsBack_channelStatus.plain status
  · obtain ⟨staging, production⟩ := p
    cases staging <;> cases production <;>
      simp [ofChannels, channels?, PerChannel.entries, Channel.all, PerChannel.get, PerChannel.set, PerChannel.both,
        readsBack_channelStatus.read]

theorem readsBack_report : ReadsBack ofReport report? := by
  have artifacts := readsBack_artifact.list
  have tasks := readsBack_taskRecord.list
  refine ⟨fun r => ?_, fun r => object_ne_null _, fun r => ?_⟩
  · refine (plain_object_iff _).mpr ?_
    simp only [List.forall_mem_cons, ofText?_eq]
    exact ⟨plain_str _, readsBack_runId.plain _, readsBack_timestamp.plain _, readsBack_timestamp.plain_ofOption _,
      readsBack_context.plain_ofOption _, readsBack_version.plain_ofOption _, artifacts.plain _,
      readsBack_verdict.plain_ofOption _, readsBack_decision.plain_ofOption _, readsBack_channels.plain _, tasks.plain _,
      readsBack_text.plain_ofOption _, nofun⟩
  · have fields : fields? reportFields (ofReport r) =
        some [some (str r.schemaVersion), some (ofRunId r.runId), some (ofTimestamp r.startedAt),
          some (ofOption ofTimestamp r.finishedAt), some (ofOption ofContext r.context), some (ofOption ofVersion r.version),
          some (ofList ofArtifact r.artifacts), some (ofOption ofVerdict r.verdict), some (ofOption ofDecision r.decision),
          some (ofChannels r.channels), some (ofList ofTaskRecord r.tasks), some (ofText? r.error)] :=
      fields?_object rfl (by decide)
    rw [report?, fields, ofText?_eq, Option.bind_some]
    refine (readsBack_text.required_bind _ _).trans ?_
    refine (readsBack_runId.required_bind _ _).trans ?_
    refine (readsBack_timestamp.required_bind _ _).trans ?_
    refine (readsBack_timestamp.optional_bind _ _).trans ?_
    refine (readsBack_context.optional_bind _ _).trans ?_
    refine (readsBack_version.optional_bind _ _).trans ?_
    refine (artifacts.required_bind _ _).trans ?_
    refine (readsBack_verdict.optional_bind _ _).trans ?_
    refine (readsBack_decision.optional_bind _ _).trans ?_
    refine (readsBack_channels.required_bind _ _).trans ?_
    refine (tasks.required_bind _ _).trans ?_
    exact readsBack_text.optional_bind _ _

/-- The text of a stored report stands for that report. -/
theorem report?_reportText (r : RunReport) : (Json.parse? (reportText r)).bind report? = some r :=
  readsBack_report.parse?_print (.spread 0) r

end ReleaseGate.Codec
