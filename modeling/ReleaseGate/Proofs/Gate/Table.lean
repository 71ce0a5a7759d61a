import ReleaseGate.Proofs.Gate.Eligibility

/-!
# The decision table of the gate

A policy, a context and a verdict determine which channels a run may publish to and whether its verification fails it. Of the
names that the gate compares, neither the white space around them nor, for repositories, the case of their ASCII letters has a
part in that.
-/

namespace ReleaseGate

/-- A decision fails the run it is made for. -/
def Decision.IsFatal (d : Decision) : Prop := ∃ reason, d.reason? = some reason ∧ reason.isFatal = true

namespace GatePolicy

/-! ## Eligibility and fatality -/

/-- A push to anywhere but the trunk of the canonical repository is ineligible. -/
theorem eligibility_elsewhere {p : GatePolicy} {c : RunContext} (push : c.eventKind = .push) (elsewhere : ¬c.PushesToTrunk p) :
    ∃ why, p.eligibility c = .noPublish (.ineligible why) := by
  unfold eligibility
  rw [push]
  by_cases canonical : p.isCanonical c.repository = true
  · have off : (c.isTagRef || !p.isTrunk c.gitRef) = true := by
      cases tag : c.isTagRef with
      | true => rfl
      | false =>
        cases trunk : p.isTrunk c.gitRef with
        | false => rfl
        | true => exact absurd ⟨push, tag, canonical, (isTrunk_iff p c.gitRef).mp trunk⟩ elsewhere
    exact ⟨_, by simp only [canonical, off]; rfl⟩
  · exact ⟨_, by simp only [canonical]; rfl⟩

/-- A context that is eligible for no channel has a reason that does not fail the run. -/
theorem isFatal_eligibility (p : GatePolicy) (c : RunContext) : ¬(p.eligibility c).IsFatal := by
  rintro ⟨reason, told, fatal⟩
  unfold eligibility at told
  split at told
  · cases told
    cases fatal
  · cases told
  · split at told
    · cases told
      cases fatal
    · split at told
      · cases told
        cases fatal
      · cases told

/-- A reason that fails the run has the findings of a failed verification, and the context was eligible. -/
theorem reason_of_isFatal {p : GatePolicy} {c : RunContext} {v : Verdict} {reason : NoPublishReason}
    (told : (p.decision c v).reason? = some reason) (fatal : reason.isFatal = true) :
    ∃ issues, v = .fail issues ∧ reason = .verificationFailed issues ∧ (p.eligibility c).reason? = none := by
  have harmless := isFatal_eligibility p c
  unfold decision at told
  cases eligible : p.eligibility c with
  | noPublish why =>
    rw [eligible] at told harmless
    obtain rfl := Option.some.inj told
    exact absurd ⟨why, rfl, fatal⟩ harmless
  | stagingOnly =>
    rw [eligible] at told
    cases v with
    | pass => cases told
    | fail issues => exact ⟨issues, rfl, (Option.some.inj told).symm, rfl⟩
  | stagingAndProduction =>
    rw [eligible] at told
    cases v with
    | pass => cases told
    | fail issues => exact ⟨issues, rfl, (Option.some.inj told).symm, rfl⟩

/-- A decision without a reason opens a channel. -/
theorem reason_eq_none_iff (d : Decision) : d.reason? = none ↔ ∃ channel, d.allows channel = true := by
  cases d with
  | noPublish reason => simp [Decision.reason?, Decision.allows]
  | stagingOnly => exact ⟨fun _ => ⟨.staging, rfl⟩, fun _ => rfl⟩
  | stagingAndProduction => exact ⟨fun _ => ⟨.staging, rfl⟩, fun _ => rfl⟩

/-- A run is failed by its decision just when it would have published but for its verification. -/
theorem isFatal_decision_iff (p : GatePolicy) (c : RunContext) (v : Verdict) :
    (p.decision c v).IsFatal ↔ v ≠ .pass ∧ ∃ channel, (p.decision c .pass).allows channel = true := by
  have passes : (∃ channel, (p.decision c .pass).allows channel = true) ↔ (p.eligibility c).reason? = none := by
    rw [reason_eq_none_iff]
    exact exists_congr fun channel => by rw [allows_decision]; exact and_iff_right rfl
  rw [passes]
  constructor
  · rintro ⟨reason, told, fatal⟩
    obtain ⟨issues, rfl, -, eligible⟩ := reason_of_isFatal told fatal
    exact ⟨Verdict.noConfusion, eligible⟩
  · rintro ⟨failed, eligible⟩
    cases v with
    | pass => exact absurd rfl failed
    | fail issues =>
      refine ⟨.verificationFailed issues, ?_, rfl⟩
      unfold decision
      cases opened : p.eligibility c with
      | noPublish reason =>
        rw [opened] at eligible
        cases eligible
      | stagingOnly => rfl
      | stagingAndProduction => rfl

/-! ## The table -/

/-- What a policy decides in a context, whatever the verdict. -/
structure Table (p : GatePolicy) (c : RunContext) : Prop where
  /-- Production is for published releases that are verified. -/
  production (v : Verdict) : (p.decision c v).allows .production = true ↔ c.eventKind = .releasePublished ∧ v = .pass
  /-- Staging is for those and for verified pushes to the trunk. -/
  staging (v : Verdict) :
    (p.decision c v).allows .staging = true ↔ v = .pass ∧ (c.eventKind = .releasePublished ∨ c.PushesToTrunk p)
  /-- A run that was started by hand publishes nothing, for that reason. -/
  byHand : c.eventKind = .manualDispatch → ∀ v, p.decision c v = .noPublish .manualDispatch
  /-- A push to anywhere else is ineligible, for a reason that has nothing of the verdict. -/
  elsewhere : c.eventKind = .push → ¬c.PushesToTrunk p → ∃ why, ∀ v, p.decision c v = .noPublish (.ineligible why)
  /-- The run fails just when verification failed that would have opened a channel. -/
  fatal (v : Verdict) : (p.decision c v).IsFatal ↔ v ≠ .pass ∧ ∃ channel, (p.decision c .pass).allows channel = true
  /-- The reason that fails a run has the findings of the verification. -/
  findings (v : Verdict) (reason : NoPublishReason) : (p.decision c v).reason? = some reason → reason.isFatal = true →
    ∃ issues, v = .fail issues ∧ reason = .verificationFailed issues
  /-- Production is never without staging. -/
  together (v : Verdict) : (p.decision c v).allows .production = true → (p.decision c v).allows .staging = true

/-- The table holds of every policy in every context. -/
theorem table (p : GatePolicy) (c : RunContext) : p.Table c where
  production v := by
    rw [allows_decision, allows_eligibility_iff]
    simp [and_comm]
  staging v := by
    rw [allows_decision, allows_eligibility_iff]
    simp
  byHand event v := by
    simp only [decision, eligibility, event]
  elsewhere push off := by
    obtain ⟨why, closed⟩ := eligibility_elsewhere push off
    refine ⟨why, fun v => ?_⟩
    unfold decision
    rw [closed]
  fatal := isFatal_decision_iff p c
  findings v reason told fatal := by
    obtain ⟨issues, failed, carried, -⟩ := reason_of_isFatal told fatal
    exact ⟨issues, failed, carried⟩
  together v := Decision.allows_staging_of_production

/-! ## Other spellings of the names -/

/-- How a policy and a context may be spelled in another way: with white space around the names, and with the letters of the
repositories in whichever case. -/
structure Respelled (p : GatePolicy) (c : RunContext) (p' : GatePolicy) (c' : RunContext) : Prop where
  canonical : Text.IsRespelled p.canonicalRepository p'.canonicalRepository
  trunk : Text.IsPadded p.trunkBranch p'.trunkBranch
  event : c'.eventKind = c.eventKind
  repository : Text.IsRespelled c.repository c'.repository
  gitRef : Text.IsPadded c.gitRef c'.gitRef
  isTag : c'.isTagRef = c.isTagRef

/-- The spelling of the names makes no difference to which pushes are to the trunk. -/
theorem Respelled.pushesToTrunk_iff {p p' : GatePolicy} {c c' : RunContext} (h : Respelled p c p' c') :
    c'.PushesToTrunk p' ↔ c.PushesToTrunk p := by
  have sameRepository : Text.sameIgnoringCase (Text.trimmed p'.canonicalRepository) (Text.trimmed c'.repository) =
      Text.sameIgnoringCase (Text.trimmed p.canonicalRepository) (Text.trimmed c.repository) := by
    unfold Text.sameIgnoringCase
    rw [h.canonical.lowerAscii_trim, h.repository.lowerAscii_trim]
  constructor
  · rintro ⟨push, branch, repository, trunk⟩
    rw [h.gitRef.trimmed_eq, h.trunk.trimmed_eq] at trunk
    exact ⟨h.event ▸ push, h.isTag ▸ branch, sameRepository ▸ repository, trunk⟩
  · rintro ⟨push, branch, repository, trunk⟩
    rw [← h.gitRef.trimmed_eq, ← h.trunk.trimmed_eq] at trunk
    exact ⟨h.event.trans push, h.isTag.trans branch, sameRepository.trans repository, trunk⟩

/-- The spelling of the names makes no difference to which channels are open. -/
theorem Respelled.allows_decision_iff {p p' : GatePolicy} {c c' : RunContext} (h : Respelled p c p' c') (v : Verdict)
    (channel : Channel) : (p'.decision c' v).allows channel = true ↔ (p.decision c v).allows channel = true := by
  rw [allows_decision, allows_decision, allows_eligibility_iff, allows_eligibility_iff, h.event, h.pushesToTrunk_iff]

/-- The table holds, and what it says of the channels and of the failure of the run is the same however the names are spelled. -/
theorem decides_by_table (p : GatePolicy) (c : RunContext) :
    p.Table c ∧ ∀ p' c', Respelled p c p' c' → ∀ v,
      (∀ channel, (p'.decision c' v).allows channel = true ↔ (p.decision c v).allows channel = true) ∧
        ((p'.decision c' v).IsFatal ↔ (p.decision c v).IsFatal) := by
  refine ⟨table p c, fun p' c' respelled v => ⟨respelled.allows_decision_iff v, ?_⟩⟩
  rw [isFatal_decision_iff, isFatal_decision_iff]
  exact and_congr_right fun _ => exists_congr fun channel => respelled.allows_decision_iff .pass channel

/-- A push to the trunk that spells every name in another way. -/
theorem decides_by_table_spelled :
    let p : GatePolicy := { canonicalRepository := "acme/widget", trunkBranch := "main" }
    let c : RunContext := { eventKind := .push, gitRef := "refs/heads/main", repository := "acme/widget", isTagRef := false }
    let p' : GatePolicy := { canonicalRepository := " Acme/Widget", trunkBranch := "main\n" }
    let c' : RunContext := { eventKind := .push, gitRef := " refs/heads/main", repository := "ACME/widget ", isTagRef := false }
    Respelled p c p' c' ∧ c.PushesToTrunk p ∧
      ∀ channel, (p'.decision c' .pass).allows channel = true ↔ (p.decision c .pass).allows channel = true := by
  intro p c p' c'
  have blank : ∀ c ∈ [' '], Text.isBlank c = true := List.forall_mem_singleton.mpr rfl
  have respelled : Respelled p c p' c' :=
    { canonical := ⟨" acme/widget", ⟨[' '], [], blank, List.forall_mem_nil _, by decide⟩, by decide⟩
      trunk := ⟨[], ['\n'], List.forall_mem_nil _, List.forall_mem_singleton.mpr rfl, by decide⟩
      event := rfl
      repository := ⟨"acme/widget ", ⟨[], [' '], List.forall_mem_nil _, blank, by decide⟩, by decide⟩
      gitRef := ⟨[' '], [], blank, List.forall_mem_nil _, by decide⟩
      isTag := rfl }
  exact ⟨respelled, ⟨rfl, rfl, by decide, .inr (by decide)⟩, ((decides_by_table p c).2 p' c' respelled .pass).1⟩

end GatePolicy

end ReleaseGate
