import ReleaseGate.Gate
import ReleaseGate.Resolver

/-!
# What opens a channel

A decision opens a channel only when verification passed, and then in two cases: the run was started by a published release, or the
channel is staging and the run was started by a push to the trunk of the canonical repository. `allows_decision` and
`allows_eligibility_iff` say so for every policy and every context. The contexts of triggers have more to them: their ref has no
white space around it, and a release is on a tag, which then is the version of the run.
-/

namespace ReleaseGate

/-! ## The two cases -/

/-- A run was started by a release that is published, on a tag that is its version. -/
structure RunContext.IsReleaseOf (c : RunContext) (version : Version) : Prop where
  event : c.eventKind = .releasePublished
  tag : c.isTagRef = true
  version : ∃ name, c.tagName? = some name ∧ Version.parse name = .ok version

/-- A run was started by a push to a branch, that branch is the trunk, bare or fully qualified, and the repository is the
canonical one. -/
structure RunContext.IsTrunkPush (c : RunContext) (p : GatePolicy) : Prop where
  event : c.eventKind = .push
  branch : c.isTagRef = false
  repository : Text.sameIgnoringCase (Text.trimmed p.canonicalRepository) (Text.trimmed c.repository) = true
  trunk : c.gitRef = Text.trimmed p.trunkBranch ∨ c.gitRef = branchStart ++ Text.trimmed p.trunkBranch

/-- A run was started by a push to a branch that is the trunk, bare or fully qualified, of the canonical repository, the white space
around each of the names aside. -/
structure RunContext.PushesToTrunk (c : RunContext) (p : GatePolicy) : Prop where
  event : c.eventKind = .push
  branch : c.isTagRef = false
  repository : Text.sameIgnoringCase (Text.trimmed p.canonicalRepository) (Text.trimmed c.repository) = true
  trunk : Text.trimmed c.gitRef = Text.trimmed p.trunkBranch ∨
    Text.trimmed c.gitRef = branchStart ++ Text.trimmed p.trunkBranch

/-- The two ways to say that a push is to the trunk agree on a ref that has no white space around it. -/
theorem RunContext.isTrunkPush_iff {c : RunContext} (bare : Text.trimmed c.gitRef = c.gitRef) (p : GatePolicy) :
    c.IsTrunkPush p ↔ c.PushesToTrunk p := by
  constructor
  · rintro ⟨event, branch, repository, trunk⟩
    exact ⟨event, branch, repository, by rwa [bare]⟩
  · rintro ⟨event, branch, repository, trunk⟩
    exact ⟨event, branch, repository, by rwa [bare] at trunk⟩

namespace GatePolicy

theorem isTrunk_iff (p : GatePolicy) (ref : String) :
    p.isTrunk ref = true ↔
      Text.trimmed ref = Text.trimmed p.trunkBranch ∨ Text.trimmed ref = branchStart ++ Text.trimmed p.trunkBranch := by
  unfold isTrunk
  rw [Bool.or_eq_true, beq_iff_eq, beq_iff_eq, Text.withoutStart?_eq_some_iff]

/-- What a context is eligible for: a published release for both channels, and a push to the trunk of the canonical repository for
staging. -/
theorem allows_eligibility_iff (p : GatePolicy) (c : RunContext) (channel : Channel) :
    (p.eligibility c).allows channel = true ↔
      c.eventKind = .releasePublished ∨ channel = .staging ∧ c.PushesToTrunk p := by
  have trunk := isTrunk_iff p c.gitRef
  unfold eligibility
  cases event : c.eventKind with
  | releasePublished => simp [Decision.allows]
  | manualDispatch =>
    have other : ¬c.PushesToTrunk p := by
      intro h
      cases event.symm.trans h.event
    simp [Decision.allows, other]
  | push =>
    by_cases canonical : p.isCanonical c.repository = true
    · by_cases onTrunk : c.isTagRef = false ∧ p.isTrunk c.gitRef = true
      · have opened : c.PushesToTrunk p := ⟨event, onTrunk.1, canonical, trunk.mp onTrunk.2⟩
        cases channel <;> simp [canonical, onTrunk, Decision.allows, opened]
      · have closed : ¬c.PushesToTrunk p := fun h => onTrunk ⟨h.branch, trunk.mpr h.trunk⟩
        have elsewhere : (c.isTagRef || !p.isTrunk c.gitRef) = true := by
          cases tag : c.isTagRef <;> simp_all
        simp [canonical, elsewhere, Decision.allows, closed]
    · have closed : ¬c.PushesToTrunk p := fun h => canonical h.repository
      simp [canonical, Decision.allows, closed]

/-- A decision opens what the context is eligible for, if verification passed, and nothing otherwise. -/
theorem allows_decision (p : GatePolicy) (c : RunContext) (v : Verdict) (channel : Channel) :
    (p.decision c v).allows channel = true ↔ v = .pass ∧ (p.eligibility c).allows channel = true := by
  unfold decision
  cases p.eligibility c <;> cases v <;> simp [Decision.allows]

end GatePolicy

/-! ## The contexts of triggers -/

namespace Trigger

/-- The context of some parts has its ref and its repository without white space around them, and a release is on a tag. -/
theorem contextOf_eq_ok {kind : EventKind} {gitRef repository : String} {isTag : Bool} {c : RunContext}
    (h : contextOf kind gitRef repository isTag = .ok c) :
    c.gitRef = Text.trimmed gitRef ∧ c.repository = Text.trimmed repository ∧
      (c.eventKind = .releasePublished → c.isTagRef = true) := by
  simp only [contextOf] at h
  split at h
  · cases h
  · split at h
    · cases h
    · split at h
      · cases h
      next offTag =>
        obtain rfl := Except.ok.inj h
        refine ⟨rfl, rfl, fun release => ?_⟩
        cases isTag with
        | true => rfl
        | false => exact absurd ⟨release, rfl⟩ offTag

/-- The context of a trigger is the context of its parts. -/
theorem classify_eq_ok {t : Trigger} {c : RunContext} (h : t.classify = .ok c) :
    ∃ kind isTag, t.eventKind = .ok kind ∧ t.isTagRef = .ok isTag ∧ contextOf kind t.gitRef t.repository isTag = .ok c := by
  unfold classify at h
  cases event : t.eventKind with
  | error e =>
    rw [event] at h
    cases h
  | ok kind =>
    rw [event] at h
    simp only [Except.bind] at h
    split at h
    · cases h
    · cases tag : t.isTagRef with
      | error e =>
        rw [tag] at h
        cases h
      | ok isTag =>
        rw [tag] at h
        exact ⟨kind, isTag, rfl, rfl, h⟩

/-- The ref of a context has no white space around it. -/
theorem trimmed_gitRef_of_classify {t : Trigger} {c : RunContext} (h : t.classify = .ok c) :
    Text.trimmed c.gitRef = c.gitRef := by
  obtain ⟨kind, isTag, -, -, parts⟩ := classify_eq_ok h
  rw [(contextOf_eq_ok parts).1, Text.trimmed_trimmed]

/-- A published release is on a tag. -/
theorem isTagRef_of_classify {t : Trigger} {c : RunContext} (h : t.classify = .ok c) (event : c.eventKind = .releasePublished) :
    c.isTagRef = true := by
  obtain ⟨kind, isTag, -, -, parts⟩ := classify_eq_ok h
  exact (contextOf_eq_ok parts).2.2 event

end Trigger

namespace Resolver

variable {σ : Type}

/-- The version of a run on a tag is what the tag is read as, whatever the source would answer. -/
theorem parse_of_resolve {source : σ → Except Failure String × σ} {c : RunContext} {s : σ} {name : String} {version : Version}
    (tag : c.tagName? = some name) (h : (resolve source c s).1 = .ok version) : Version.parse name = .ok version := by
  unfold resolve at h
  rw [tag] at h
  simp only [ofTag] at h
  cases parsed : Version.parse name with
  | error e =>
    rw [parsed] at h
    cases h
  | ok v =>
    rw [parsed] at h
    exact congrArg Except.ok (Except.ok.inj h)

end Resolver

/-- A published release whose version is resolved is the release of that version. -/
theorem RunContext.isReleaseOf {σ : Type} {t : Trigger} {c : RunContext} {source : σ → Except Failure String × σ} {s : σ}
    {version : Version} (classified : t.classify = .ok c) (resolved : (Resolver.resolve source c s).1 = .ok version)
    (event : c.eventKind = .releasePublished) : c.IsReleaseOf version := by
  have tag := Trigger.isTagRef_of_classify classified event
  have name : c.tagName? = some ((Text.withoutStart? tagStart c.gitRef).getD c.gitRef) := by
    unfold RunContext.tagName?
    rw [if_pos tag]
  exact ⟨event, tag, _, name, Resolver.parse_of_resolve name resolved⟩

end ReleaseGate
