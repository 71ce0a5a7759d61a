import ReleaseGate.Codec.Domain
import ReleaseGate.Proofs.Codec.Fields
import ReleaseGate.Proofs.Version.Canonical

/-!
# Stored forms of the domain are read back

One lemma for each type that a report holds, from those for the types inside it. A record is read back field by field, a choice case
by case: each case has its own tag, and content just when it has something to hold.
-/

namespace ReleaseGate.Codec

open Json

theorem readsBack_version : ReadsBack ofVersion version? :=
  readsBack_spelled fun v => by rw [Version.parse_text]; rfl

theorem readsBack_eventKind : ReadsBack ofEventKind eventKind? := readsBack_named EventKind.ofName?_name

theorem readsBack_family : ReadsBack ofFamily family? := readsBack_named CheckFamily.ofName?_name

theorem readsBack_path : ReadsBack ofPath path? := ⟨fun p => plain_str p.text, nofun, fun _ => rfl⟩

/-! ## Records -/

theorem readsBack_context : ReadsBack ofContext context? := by
  refine ⟨fun c => ?_, nofun, fun c => ?_⟩
  · simp [ofContext, readsBack_eventKind.plain]
  · have fields : fields? ["event_kind", "git_ref", "repository", "is_tag_ref"] (ofContext c) =
        some [some (ofEventKind c.eventKind), some (str c.gitRef), some (str c.repository), some (bool c.isTagRef)] :=
      fields?_object rfl (by decide)
    rw [context?, fields]
    simp [readsBack_eventKind.read, readsBack_text.read, readsBack_flag.read]

theorem readsBack_issue : ReadsBack ofIssue issue? := by
  refine ⟨fun i => ?_, nofun, fun i => ?_⟩
  · simp [ofIssue, readsBack_family.plain]
  · have fields : fields? ["check", "subject", "detail"] (ofIssue i) =
        some [some (ofFamily i.family), some (str i.subject), some (str i.detail)] := fields?_object rfl (by decide)
    rw [issue?, fields]
    simp [readsBack_family.read, readsBack_text.read]

theorem readsBack_artifact : ReadsBack ofArtifact artifact? := by
  refine ⟨fun a => ?_, nofun, fun a => ?_⟩
  · simp [ofArtifact, readsBack_path.plain, ofWord]
  · have fields : fields? ["file_name", "path", "size", "sha256"] (ofArtifact a) =
        some [some (str a.fileName), some (ofPath a.path), some (ofWord a.size), some (str a.sha256)] :=
      fields?_object rfl (by decide)
    have size : word? (ofWord a.size) = some a.size := readsBack_word.read a.size
    rw [artifact?, fields]
    simp [readsBack_path.read, readsBack_text.read, size]

theorem readsBack_descriptor : ReadsBack ofDescriptor descriptor? := by
  refine ⟨fun d => ?_, nofun, fun d => ?_⟩
  · simp [ofDescriptor]
  · have fields : fields? descriptorRecord.fields (ofDescriptor d) =
        some [some (str d.name), some (str d.version), some (str d.summary), some (str d.longDescription), some (str d.contentType)] :=
      fields?_object rfl (by decide)
    rw [descriptor?, fields]
    simp [readsBack_text.read]

/-! ## Choices -/

theorem readsBack_verdict : ReadsBack ofVerdict verdict? := by
  have apart : "result" ≠ "issues" := by decide
  have issues := readsBack_issue.list
  refine ⟨fun v => ?_, fun v => ?_, fun v => ?_⟩
  · cases v <;> simp [ofVerdict, issues.plain]
  · cases v <;> nofun
  · cases v with
    | pass => rw [ofVerdict, verdict?, tagged?_bare apart]; rfl
    | fail found => simp [ofVerdict, verdict?, tagged?_content apart, issues.read]

theorem readsBack_reason : ReadsBack ofReason reason? := by
  have apart : "reason" ≠ "detail" := by decide
  have issues := readsBack_issue.list
  refine ⟨fun r => ?_, fun r => ?_, fun r => ?_⟩
  · cases r <;> simp [ofReason, issues.plain]
  · cases r <;> nofun
  · cases r with
    | ineligible why => simp [ofReason, reason?, tagged?_content apart, readsBack_text.read]
    | manualDispatch => rw [ofReason, reason?, tagged?_bare apart]; rfl
    | verificationFailed found => simp [ofReason, reason?, tagged?_content apart, issues.read]

/-- A decision has its tag among its fields, beside that of the reason, which has a tag of the same name inside. -/
theorem readsBack_decision : ReadsBack ofDecision decision? := by
  refine ⟨fun d => ?_, fun d => ?_, fun d => ?_⟩
  · cases d <;> simp [ofDecision, readsBack_reason.plain]
  · cases d <;> nofun
  · cases d with
    | noPublish reason => simp [ofDecision, decision?, decisionParts?, valuesOf, readsBack_reason.read]
    | stagingOnly => rfl
    | stagingAndProduction => rfl

theorem readsBack_outcome : ReadsBack ofOutcome outcome? := by
  have apart : "outcome" ≠ "reason" := by decide
  refine ⟨fun o => ?_, fun o => ?_, fun o => ?_⟩
  · cases o <;> simp [ofOutcome]
  · cases o <;> nofun
  · cases o with
    | succeeded => rw [ofOutcome, outcome?, tagged?_bare apart]; rfl
    | skippedExisting => rw [ofOutcome, outcome?, tagged?_bare apart]; rfl
    | failed reason => simp [ofOutcome, outcome?, tagged?_content apart, readsBack_text.read]

end ReleaseGate.Codec
