import ReleaseGate.Proofs.Run.Times
import ReleaseGate.Proofs.Verification.Families

/-!
# Runs that prepare alike

What a run publishes, and where, is settled before its publishes: by the policy, by the candidate for a version, and by what the
build makes of it. `PreparesAlike` says that two runs have these in common, whatever else is different about their pipelines and
their states. Two such runs come equally far, to the same set and the same decision (`Built.alike`), and have reported and told the
same by then, up to their identities and times (`prepare_alike`).
-/

namespace ReleaseGate

/-- Which version is resolved depends on the source only by what it answers. -/
theorem Resolver.resolve_congr {σ τ : Type} {source : σ → Except Failure String × σ} {source' : τ → Except Failure String × τ} {s : σ}
    {t : τ} (same : (source s).1 = (source' t).1) (context : RunContext) :
    (resolve source context s).1 = (resolve source' context t).1 := by
  unfold resolve
  cases context.tagName? with
  | some tag => rfl
  | none =>
    simp only
    cases h : source s with
    | mk answer s₁ =>
      cases h' : source' t with
      | mk answer' t₁ =>
        rw [h, h'] at same
        obtain rfl : answer = answer' := same
        cases answer <;> rfl

namespace Pipeline

variable {σ τ : Type} {p : Pipeline σ} {q : Pipeline τ}

/-- Two builds of a version make the same set, with the same contents of its files. -/
structure BuildsAlike (p : Pipeline σ) (q : Pipeline τ) (version : Version) (s : σ) (t : τ) : Prop where
  set : (p.builder version s).1 = (q.builder version t).1
  contents : ∀ set, (p.builder version s).1 = .ok set → ∀ a ∈ set.artifacts,
    (p.files (p.builder version s).2).readBytes p.cwd a.path = (q.files (q.builder version t).2).readBytes q.cwd a.path

/-- Two pipelines, each in a state of its own, prepare alike for a trigger: under the same policy, with the same candidate for a
version, and with builds that make the same of the version that is resolved. -/
structure PreparesAlike (p : Pipeline σ) (q : Pipeline τ) (trigger : Trigger) (s : σ) (t : τ) : Prop where
  policy : p.policy = q.policy
  source : (p.source s).1 = (q.source t).1
  builds : ∀ context version, trigger.classify = .ok context → (Resolver.resolve p.source context s).1 = .ok version →
    p.BuildsAlike q version (Resolver.resolve p.source context s).2 (Resolver.resolve q.source context t).2

variable {trigger : Trigger} {s : σ} {t : τ}

/-- What is built by one of two runs that prepare alike is built by the other one, with the same contents of its files. -/
theorem Built.exists_alike {s₂ : σ} {context : RunContext} {version : Version} {set : ArtifactSet}
    (h : p.Built trigger s context version set s₂) (alike : p.PreparesAlike q trigger s t) :
    ∃ t₂, q.Built trigger t context version set t₂ ∧
      ∀ a ∈ set.artifacts, (p.files s₂).readBytes p.cwd a.path = (q.files t₂).readBytes q.cwd a.path := by
  obtain ⟨classified, resolved, built⟩ := h
  have builds := alike.builds context version classified resolved
  have made : (q.builder version (Resolver.resolve q.source context t).2).1 = .ok set := by
    rw [← builds.set, built]
  refine ⟨(q.builder version (Resolver.resolve q.source context t).2).2, ⟨classified, ?_, Prod.ext made rfl⟩, ?_⟩
  · rw [← Resolver.resolve_congr alike.source, resolved]
  · have contents := builds.contents set (congrArg Prod.fst built)
    rw [built] at contents
    exact contents

/-- What is built by one of two runs that prepare alike is built by the other one, and the verdict on it is the same. -/
theorem Built.alike {s₂ : σ} {context : RunContext} {version : Version} {set : ArtifactSet}
    (h : p.Built trigger s context version set s₂) (alike : p.PreparesAlike q trigger s t) :
    ∃ t₂, q.Built trigger t context version set t₂ ∧ p.verdictOn set s₂ = q.verdictOn set t₂ := by
  obtain ⟨t₂, built, contents⟩ := h.exists_alike alike
  exact ⟨t₂, built, Verifier.verify_congr contents⟩

/-- What is decided on the set of two runs that prepare alike is the same. -/
theorem PreparesAlike.decisionOn_eq {s₂ : σ} {t₂ : τ} {set : ArtifactSet} (alike : p.PreparesAlike q trigger s t)
    (verdict : p.verdictOn set s₂ = q.verdictOn set t₂) (context : RunContext) :
    p.decisionOn context set s₂ = q.decisionOn context set t₂ := by
  unfold decisionOn
  rw [alike.policy, verdict]

/-! ## What is reported and told before the publishes -/

/-- Two runs have come to the same before they publish: they have ended alike, or reached the gate with the same set, whose files
have the same contents, and the same decision. -/
inductive PreparedAlike (p : Pipeline σ) (q : Pipeline τ) : Except Progress Prepared → σ → Except Progress Prepared → τ → Prop where
  | aborted {a b : Progress} {s : σ} {t : τ} (same : a.SameUpToTimes b) : PreparedAlike p q (.error a) s (.error b) t
  | reached {a b : Prepared} {s : σ} {t : τ} (set : a.set = b.set) (decision : a.decision = b.decision)
      (report : ∀ id time, a.progress.report.stamped id time = b.progress.report.stamped id time)
      (events : a.progress.events = b.progress.events)
      (contents : ∀ x ∈ a.set.artifacts, (p.files s).readBytes p.cwd x.path = (q.files t).readBytes q.cwd x.path) :
      PreparedAlike p q (.ok a) s (.ok b) t

/-- Past the gate, reports are the same up to identity and times if they were before, and the verdicts and the decisions are. -/
theorem stamped_decide {id : RunId} {time : Timestamp} {a b : Progress} {s₂ : σ} {t₂ : τ} {context : RunContext}
    {set : ArtifactSet} (same : a.report.stamped id time = b.report.stamped id time)
    (verdict : p.verdictOn set s₂ = q.verdictOn set t₂) (decision : p.decisionOn context set s₂ = q.decisionOn context set t₂) :
    (p.decide a context set s₂).progress.report.stamped id time = (q.decide b context set t₂).progress.report.stamped id time := by
  have gate : (p.atGate a context set s₂).stamped id time = (q.atGate b context set t₂).stamped id time := by
    have recorded : ∀ status ms ms', (a.report.recordTask .verify status ms).stamped id time =
        (b.report.recordTask .verify status ms').stamped id time := by
      intro status ms ms'
      rw [RunReport.stamped_recordTask, RunReport.stamped_recordTask, same]
    let noted (r : RunReport) : RunReport :=
      { r with verdict := some (q.verdictOn set t₂), decision := some (q.decisionOn context set t₂) }
    unfold atGate
    rw [verdict, decision]
    exact congrArg noted (recorded _ _ _)
  have settled : ∀ xs : List Settlement, (xs.foldl RunReport.settle (p.atGate a context set s₂)).stamped id time =
      (xs.foldl RunReport.settle (q.atGate b context set t₂)).stamped id time :=
    fun xs => RunReport.stamped_settleAll gate rfl
  let failed (r : RunReport) : RunReport := { r with error := (fatalError? (q.decisionOn context set t₂)).or r.error }
  rw [report_decide, report_decide, verdict, decision]
  exact congrArg failed (settled _)

/-- Runs that prepare alike have come to the same before they publish. -/
theorem prepare_alike (alike : p.PreparesAlike q trigger s t) {id id' : RunId} {r r' : Except Progress Prepared} {s' : σ} {t' : τ}
    (h : p.prepare id trigger s = (r, s')) (h' : q.prepare id' trigger t = (r', t')) : PreparedAlike p q r s' r' t' := by
  have same := Resolver.resolve_congr alike.source
  cases prepares_of_prepare h with
  | refused classified =>
    obtain ⟨rfl, rfl⟩ := Prod.mk.inj (h'.symm.trans (prepare_of_prepares (.refused classified)))
    refine .aborted (Progress.sameUpToTimes_abort (fun _ _ => ?_) ?_ _ _ _ _ _ _) <;> rfl
  | @unresolved context e s₁ classified resolved =>
    have resolved' : Resolver.resolve q.source context t = (.error e, (Resolver.resolve q.source context t).2) :=
      Prod.ext ((same context).symm.trans (congrArg Prod.fst resolved)) rfl
    obtain ⟨rfl, rfl⟩ := Prod.mk.inj (h'.symm.trans (prepare_of_prepares (.unresolved classified resolved')))
    refine .aborted (Progress.sameUpToTimes_abort (fun _ _ => ?_) ?_ _ _ _ _ _ _) <;> rfl
  | @unbuilt context version e s₁ s₂ classified resolved built =>
    have resolved' : Resolver.resolve q.source context t = (.ok version, (Resolver.resolve q.source context t).2) :=
      Prod.ext ((same context).symm.trans (congrArg Prod.fst resolved)) rfl
    have builds := alike.builds context version classified (congrArg Prod.fst resolved)
    rw [resolved] at builds
    have built' : q.builder version (Resolver.resolve q.source context t).2 = (.error e, _) :=
      Prod.ext (builds.set.symm.trans (congrArg Prod.fst built)) rfl
    obtain ⟨rfl, rfl⟩ := Prod.mk.inj (h'.symm.trans (prepare_of_prepares (.unbuilt classified resolved' built')))
    refine .aborted (Progress.sameUpToTimes_abort (fun _ _ => ?_) ?_ _ _ _ _ _ _) <;> rfl
  | @built context version set s₁ s₂ built resolved =>
    obtain ⟨t₂, built', contents⟩ := built.exists_alike alike
    obtain ⟨rfl, rfl⟩ := Prod.mk.inj (h'.symm.trans (prepare_of_built built' id'))
    have verdict : p.verdictOn set _ = q.verdictOn set _ := Verifier.verify_congr contents
    have decision := alike.decisionOn_eq verdict context
    refine .reached rfl decision (fun id time => stamped_decide rfl verdict decision) ?_ contents
    rw [events_decide, events_decide, verdict, decision]
    rfl

end Pipeline

end ReleaseGate
