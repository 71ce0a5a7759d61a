import ReleaseGate.Proofs.Verification.Families
import ReleaseGate.Rehearsal

/-!
# The course of a run

How far a run comes, and every way in which it can end. `Built` says that the first three tasks of a run went well and what came
of them. `Published` says what can come of publishes whose steps come in any order, and `Ends` what can come of a whole run;
`ends_run` puts the run that publishes to one channel after the other among them. `prepares_of_prepare` is what the other modules on
runs start from: a run is ended by one of its first three tasks, or it reaches the gate. `Widget` is a release on which the results
about runs can be looked at.
-/

namespace ReleaseGate

namespace Pipeline

variable {σ ν : Type}

/-! ## Before the publishes -/

/-- A trigger is classified, its version resolved, and the set of that version built: what comes of the three tasks, and the state
after them. -/
structure Built (p : Pipeline σ) (t : Trigger) (s : σ) (context : RunContext) (version : Version) (set : ArtifactSet) (s' : σ) :
    Prop where
  classified : t.classify = .ok context
  resolved : (Resolver.resolve p.source context s).1 = .ok version
  built : p.builder version (Resolver.resolve p.source context s).2 = (.ok set, s')

/-- The three tasks have one result at most. -/
theorem Built.unique {p : Pipeline σ} {t : Trigger} {s : σ} {context context' : RunContext} {version version' : Version}
    {set set' : ArtifactSet} {s' s'' : σ} (h : p.Built t s context version set s')
    (h' : p.Built t s context' version' set' s'') :
    context = context' ∧ version = version' ∧ set = set' ∧ s' = s'' := by
  obtain rfl := Except.ok.inj (h.classified.symm.trans h'.classified)
  obtain rfl := Except.ok.inj (h.resolved.symm.trans h'.resolved)
  have same := h.built.symm.trans h'.built
  exact ⟨rfl, rfl, Except.ok.inj (congrArg Prod.fst same), congrArg Prod.snd same⟩

/-- The verdict on a set, with the files as they are in a state. -/
def verdictOn (p : Pipeline σ) (set : ArtifactSet) (s : σ) : Verdict := Verifier.verify (p.files s) p.cwd set

/-- What the gate decides on a set, with the files as they are in a state. -/
def decisionOn (p : Pipeline σ) (context : RunContext) (set : ArtifactSet) (s : σ) : Decision :=
  p.policy.decision context (p.verdictOn set s)

/-- The progress of a run whose trigger is classified. -/
def atContext (p : Pipeline σ) (id : RunId) (s : σ) (context : RunContext) : Progress :=
  (((Progress.start id (p.now s)).record .classify .succeeded (p.elapsed s s)).tell [.runClassified context]).note fun r =>
    { r with context := some context }

/-- The progress of a run whose version is resolved. -/
def atVersion (p : Pipeline σ) (id : RunId) (s s₁ : σ) (context : RunContext) (version : Version) : Progress :=
  (((p.atContext id s context).record .resolveVersion .succeeded (p.elapsed s s₁)).tell
    [.versionResolved version context.isTagRef]).note fun r => { r with version := some version }

/-- The progress of a run whose set is built. -/
def atSet (p : Pipeline σ) (id : RunId) (s s₁ s₂ : σ) (context : RunContext) (version : Version) (set : ArtifactSet) : Progress :=
  (((p.atVersion id s s₁ context version).record .build .succeeded (p.elapsed s₁ s₂)).tell
    [.buildFinished version set.artifacts.length set.totalBytes]).note fun r => { r with artifacts := set.artifacts }

/-- How far a run comes before it publishes, and in which state: one of the first three tasks ends it, or the gate is reached. -/
inductive Prepares (p : Pipeline σ) (id : RunId) (t : Trigger) (s : σ) : Except Progress Prepared → σ → Prop where
  | refused {e : Trigger.Error} (classified : t.classify = .error e) :
      Prepares p id t s
        (.error ((Progress.start id (p.now s)).abort .classify (.configuration (.trigger e)) (p.elapsed s s) (p.now s))) s
  | unresolved {context : RunContext} {e : Failure} {s₁ : σ} (classified : t.classify = .ok context)
      (resolved : Resolver.resolve p.source context s = (.error e, s₁)) :
      Prepares p id t s (.error ((p.atContext id s context).abort .resolveVersion e (p.elapsed s s₁) (p.now s₁))) s₁
  | unbuilt {context : RunContext} {version : Version} {e : Failure} {s₁ s₂ : σ} (classified : t.classify = .ok context)
      (resolved : Resolver.resolve p.source context s = (.ok version, s₁)) (built : p.builder version s₁ = (.error e, s₂)) :
      Prepares p id t s (.error ((p.atVersion id s s₁ context version).abort .build e (p.elapsed s₁ s₂) (p.now s₂))) s₂
  | built {context : RunContext} {version : Version} {set : ArtifactSet} {s₁ s₂ : σ} (h : p.Built t s context version set s₂)
      (resolved : Resolver.resolve p.source context s = (.ok version, s₁)) :
      Prepares p id t s (.ok (p.decide (p.atSet id s s₁ s₂ context version set) context set s₂)) s₂

/-- A run comes as far as `Prepares` says, by one of its four ways. -/
theorem prepares_of_prepare {p : Pipeline σ} {id : RunId} {t : Trigger} {s s' : σ} {r : Except Progress Prepared}
    (h : p.prepare id t s = (r, s')) : p.Prepares id t s r s' := by
  suffices p.Prepares id t s (p.prepare id t s).1 (p.prepare id t s).2 by
    rw [h] at this
    exact this
  unfold prepare
  split
  next e classified => exact .refused classified
  next context classified =>
    split
    next e s₁ resolved => exact .unresolved classified resolved
    next version s₁ resolved =>
      split
      next e s₂ built => exact .unbuilt classified resolved built
      next set s₂ built =>
        have h : p.Built t s context version set s₂ := ⟨classified, by rw [resolved], by rw [resolved]; exact built⟩
        exact .built h resolved

/-- A run comes no other way than it can. -/
theorem prepare_of_prepares {p : Pipeline σ} {id : RunId} {t : Trigger} {s s' : σ} {r : Except Progress Prepared}
    (h : p.Prepares id t s r s') : p.prepare id t s = (r, s') := by
  unfold prepare
  cases h with
  | refused classified => simp only [classified]
  | unresolved classified resolved =>
    simp only [classified, resolved]
    rfl
  | unbuilt classified resolved built =>
    simp only [classified, resolved, built]
    rfl
  | built h resolved =>
    have built := h.built
    rw [resolved] at built
    simp only [h.classified, resolved, built]
    rfl

/-- A run whose set is built reaches the gate with it. -/
theorem prepare_of_built {p : Pipeline σ} {t : Trigger} {s s' : σ} {context : RunContext} {version : Version} {set : ArtifactSet}
    (h : p.Built t s context version set s') (id : RunId) :
    p.prepare id t s =
      (.ok (p.decide (p.atSet id s (Resolver.resolve p.source context s).2 s' context version set) context set s'), s') := by
  have resolved : Resolver.resolve p.source context s = (.ok version, (Resolver.resolve p.source context s).2) :=
    Prod.ext h.resolved rfl
  exact prepare_of_prepares (.built h resolved)

/-- What the source keeps of the state, the resolution of the version keeps. -/
theorem resolve_keeps {p : Pipeline σ} {v : σ → ν} (source : ∀ s, v (p.source s).2 = v s) (context : RunContext) (s : σ) :
    v (Resolver.resolve p.source context s).2 = v s := by
  have kept := source s
  unfold Resolver.resolve
  cases context.tagName? with
  | some tag => rfl
  | none =>
    simp only
    cases h : p.source s with
    | mk answer s₁ =>
      rw [h] at kept
      cases answer <;> exact kept

/-- What the source and the builder keep of the state is kept when a set is built. -/
theorem Built.keeps {p : Pipeline σ} {v : σ → ν} (source : ∀ s, v (p.source s).2 = v s)
    (builder : ∀ version s, v (p.builder version s).2 = v s) {t : Trigger} {s s' : σ} {context : RunContext} {version : Version}
    {set : ArtifactSet} (h : p.Built t s context version set s') : v s' = v s := by
  have kept := builder version (Resolver.resolve p.source context s).2
  rw [h.built] at kept
  exact kept.trans (resolve_keeps source context s)

/-- What the source and the builder keep of the state, a run keeps before its publishes. -/
theorem prepare_keeps {p : Pipeline σ} {v : σ → ν} (source : ∀ s, v (p.source s).2 = v s)
    (builder : ∀ version s, v (p.builder version s).2 = v s) {id : RunId} {t : Trigger} {s s' : σ} {r : Except Progress Prepared}
    (h : p.prepare id t s = (r, s')) : v s' = v s := by
  cases prepares_of_prepare h with
  | refused classified => rfl
  | @unresolved context _ _ _ resolved =>
    have kept := resolve_keeps source context s
    rw [resolved] at kept
    exact kept
  | @unbuilt context version _ s₁ _ _ resolved built =>
    have resolves := resolve_keeps source context s
    have builds := builder version s₁
    rw [resolved] at resolves
    rw [built] at builds
    exact builds.trans resolves
  | built built resolved => exact built.keeps source builder

/-- A run that one of its first three tasks ended has built no set. -/
theorem not_built_of_prepare {p : Pipeline σ} {id : RunId} {t : Trigger} {s s₁ : σ} {progress : Progress}
    (h : p.prepare id t s = (.error progress, s₁)) (context : RunContext) (version : Version) (set : ArtifactSet) (s' : σ) :
    ¬p.Built t s context version set s' := by
  intro built
  rw [prepare_of_built built id] at h
  cases h

/-! ## Every way in which a run can end -/

/-- What can come of the publishes that a decision authorizes, whichever way their steps fall between each other: the outcome of
each channel with how long it took, and the state after all of them. -/
inductive Published (p : Pipeline σ) (set : ArtifactSet) : Decision → σ → List (Channel × Outcome × UInt64) → σ → Prop where
  | nowhere {reason : NoPublishReason} {s : σ} : Published p set (.noPublish reason) s [] s
  | staging {s : σ} :
      Published p set .stagingOnly s [(.staging, ((p.publishTo set .staging).run s).1)] ((p.publishTo set .staging).run s).2
  | both {s s' : σ} {staging production : Outcome × UInt64}
      (h : Stepwise.Interleaving (p.publishTo set .staging) (p.publishTo set .production) s staging production s') :
      Published p set .stagingAndProduction s [(.staging, staging), (.production, production)] s'

/-- Every authorized channel has an outcome, staging first, and no other channel has one. -/
theorem Published.channels {p : Pipeline σ} {set : ArtifactSet} {d : Decision} {s s' : σ}
    {published : List (Channel × Outcome × UInt64)} (h : p.Published set d s published s') :
    published.map (·.1) = d.channels := by
  cases h <;> rfl

theorem run_publishAll_cons (p : Pipeline σ) (set : ArtifactSet) (c : Channel) (rest : List Channel) (s : σ) :
    (p.publishAll set (c :: rest)).run s =
      ((c, ((p.publishTo set c).run s).1) :: ((p.publishAll set rest).run ((p.publishTo set c).run s).2).1,
        ((p.publishAll set rest).run ((p.publishTo set c).run s).2).2) := by
  rw [publishAll, Stepwise.run_bind, Stepwise.run_bind]
  rfl

/-- Publishing to one channel after the other is one of the ways in which the steps can come. -/
theorem published_publishAll (p : Pipeline σ) (set : ArtifactSet) (d : Decision) (s : σ) :
    p.Published set d s ((p.publishAll set d.channels).run s).1 ((p.publishAll set d.channels).run s).2 := by
  cases d with
  | noPublish reason => exact .nowhere
  | stagingOnly =>
    have one : Decision.stagingOnly.channels = [.staging] := rfl
    rw [one, run_publishAll_cons]
    exact .staging
  | stagingAndProduction =>
    have two : Decision.stagingAndProduction.channels = [.staging, .production] := rfl
    rw [two, run_publishAll_cons, run_publishAll_cons]
    exact .both (Stepwise.interleaving_run (p.publishTo set .staging) (p.publishTo set .production) s)

/-- What can come of a run: the outcomes of its publishes, its progress at the end, and the state then. -/
inductive Ends (p : Pipeline σ) (id : RunId) (t : Trigger) (s : σ) : List (Channel × Outcome × UInt64) → Progress → σ → Prop where
  | aborted {progress : Progress} {s' : σ} (h : p.prepare id t s = (.error progress, s')) : Ends p id t s [] progress s'
  | concluded {prepared : Prepared} {published : List (Channel × Outcome × UInt64)} {s₁ s₂ : σ}
      (h : p.prepare id t s = (.ok prepared, s₁)) (done : p.Published prepared.set prepared.decision s₁ published s₂) :
      Ends p id t s published (conclude prepared published (p.now s₂)) s₂

/-- The run that publishes to one channel after the other is one of the ways in which a run can end. -/
theorem ends_run (p : Pipeline σ) (id : RunId) (t : Trigger) (s : σ) :
    ∃ published, p.Ends id t s published (p.run id t s).1 (p.run id t s).2 := by
  unfold run
  split
  next progress s' prepared => exact ⟨[], .aborted prepared⟩
  next prepared s' h => exact ⟨_, .concluded h (published_publishAll p prepared.set prepared.decision s')⟩

end Pipeline

/-! ## A release to look at -/

namespace Widget

/-- The version of the release, as its tag spells it. -/
def version : Version := ⟨"v1.2.0", by decide +kernel⟩

/-- The name of the one file of the release. -/
def fileName : String := "widget-1.2.0.tar.gz"

/-- The bytes of that file. -/
def bytes : List UInt8 := [119, 105, 100]

/-- The file. -/
def archive : Artifact := { fileName, path := ⟨"/widget-1.2.0.tar.gz"⟩, size := 3, sha256 := Sha256.hexDigest bytes }

/-- What the file is about. -/
def descriptor : Descriptor :=
  { name := "widget", version := "1.2.0", summary := "A widget", longDescription := "A widget.", contentType := "text/plain" }

/-- What the build makes. -/
def set : ArtifactSet :=
  { version, dir := ⟨"/"⟩, artifacts := [archive], descriptor := some descriptor
    checksums := some { entries := [(fileName, archive.sha256)] } }

/-- The files after the build. -/
def files : FileSystem := ⟨[([fileName], .file bytes true)]⟩

/-- The pipeline, with a token for each of its channels. -/
def pipeline : Pipeline Rehearsal where
  policy := { canonicalRepository := "acme/widget" }
  source s := (.ok "1.2.0", s)
  builder _ s := (.ok set, { s with files })
  issuer := Rehearsal.issuer ⟨some "first", some "second"⟩
  publisher := Rehearsal.publisher ⟨some "https://test.widget.example", some "https://widget.example"⟩ .epoch
  files := Rehearsal.files
  cwd := []

/-- The trigger of the release. -/
def release : Trigger :=
  { eventName := "release", gitRef := "refs/tags/v1.2.0", repository := "acme/widget", lifecycleAction := some "published" }

/-- What the trigger is classified as. -/
def context : RunContext :=
  { eventKind := .releasePublished, gitRef := "refs/tags/v1.2.0", repository := "acme/widget", isTagRef := true }

/-- The identity of the run. -/
def runId : RunId := ⟨List.replicate 32 ⟨0, by decide⟩, rfl⟩

theorem hasMediaType_descriptor : Verifier.HasMediaType descriptor "text/plain" := Verifier.hasMediaType_iff.mpr (by decide)

theorem filledIn_descriptor : Verifier.FilledIn descriptor where
  name := Text.Pattern.accepts_iff.mp (by decide)
  summary := (Text.isBlankText_eq_false_iff _).mp (by decide)
  oneLine := by decide
  longDescription := (Text.isBlankText_eq_false_iff _).mp (by decide)
  contentType := ⟨"text/plain", by simp, hasMediaType_descriptor⟩

theorem classify_release : release.classify = .ok context := by
  have known : release.classify.toOption = some context := by decide +kernel
  cases h : release.classify with
  | error e =>
    rw [h] at known
    cases known
  | ok c =>
    rw [h] at known
    exact congrArg Except.ok (Option.some.inj known)

/-- The set of the release is built. -/
theorem built : pipeline.Built release {} context version set { files } := by
  have tag : context.tagName? = some "v1.2.0" := by decide +kernel
  have parsed : Version.parse "v1.2.0" = .ok version :=
    (Version.parse_eq_ok_iff "v1.2.0" version).mpr (by decide +kernel : Text.trimmed "v1.2.0" = "v1.2.0")
  refine ⟨classify_release, ?_, rfl⟩
  unfold Resolver.resolve
  rw [tag]
  simp only [Resolver.ofTag]
  rw [parsed]
  rfl

end Widget

end ReleaseGate
