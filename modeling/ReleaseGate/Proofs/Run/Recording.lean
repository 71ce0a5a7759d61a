import ReleaseGate.Proofs.Run.Course
import ReleaseGate.Proofs.Stepwise.Observation

/-!
# Recorded runs

A pipeline can work beside a log, in which it writes down what is of interest, and do the same as another one that has no log.
`Records` says so of what the pipelines are made of. Then the runs of the two have the same ends, beside the log
(`Records.ends_iff`), and nothing is written down before the publishes (`Records.prepare_eq`).
-/

namespace ReleaseGate.Pipeline

variable {σ ε : Type}

/-- A pipeline that works beside a log does what another one does. -/
structure Records (q : Pipeline (σ × List ε)) (p : Pipeline σ) : Prop where
  policy : q.policy = p.policy
  source : q.source = fun x => ((p.source x.1).1, (p.source x.1).2, x.2)
  builder : q.builder = fun version x => ((p.builder version x.1).1, (p.builder version x.1).2, x.2)
  issuer : ∀ c, Stepwise.Shadows (q.issuer c) (p.issuer c)
  registry : ∀ u, Stepwise.Shadows (q.publisher.registry u) (p.publisher.registry u)
  endpoints : q.publisher.endpoints = p.publisher.endpoints
  clock : q.publisher.clock = fun x => p.publisher.clock x.1
  idempotent : q.idempotent = p.idempotent
  files : q.files = fun x => p.files x.1
  cwd : q.cwd = p.cwd

namespace Records

variable {q : Pipeline (σ × List ε)} {p : Pipeline σ}

theorem resolve_eq (h : q.Records p) (context : RunContext) (x : σ × List ε) :
    Resolver.resolve q.source context x =
      ((Resolver.resolve p.source context x.1).1, (Resolver.resolve p.source context x.1).2, x.2) := by
  rw [h.source]
  unfold Resolver.resolve
  cases context.tagName? with
  | some tag => rfl
  | none =>
    simp only
    cases p.source x.1 with
    | mk answer s => cases answer <;> rfl

theorem now_eq (h : q.Records p) (x : σ × List ε) : q.now x = p.now x.1 := congrFun h.clock x

theorem elapsed_eq (h : q.Records p) (x y : σ × List ε) : q.elapsed x y = p.elapsed x.1 y.1 := by
  unfold elapsed
  rw [h.now_eq, h.now_eq]

theorem decide_eq (h : q.Records p) (progress : Progress) (context : RunContext) (set : ArtifactSet) (x : σ × List ε) :
    q.decide progress context set x = p.decide progress context set x.1 := by
  unfold decide
  rw [h.policy, h.files, h.cwd, h.elapsed_eq]

/-- Nothing is written down before the publishes. -/
theorem prepare_eq (h : q.Records p) (id : RunId) (t : Trigger) (x : σ × List ε) :
    q.prepare id t x = ((p.prepare id t x.1).1, (p.prepare id t x.1).2, x.2) := by
  unfold prepare
  rw [h.now_eq]
  cases t.classify with
  | error e => simp only [h.elapsed_eq]
  | ok context =>
    simp only [h.resolve_eq]
    cases Resolver.resolve p.source context x.1 with
    | mk answer s =>
      cases answer with
      | error e => simp only [h.elapsed_eq, h.now_eq]
      | ok version =>
        simp only [h.builder]
        cases p.builder version s with
        | mk answer' s' => cases answer' <;> simp only [h.elapsed_eq, h.now_eq, h.decide_eq]

theorem prepare_of (h : q.Records p) {id : RunId} {t : Trigger} {x y : σ × List ε} {r : Except Progress Prepared}
    (prepared : q.prepare id t x = (r, y)) : p.prepare id t x.1 = (r, y.1) ∧ y.2 = x.2 := by
  rw [h.prepare_eq] at prepared
  obtain ⟨answer, after⟩ := Prod.mk.inj prepared
  rw [← after, ← answer]
  exact ⟨rfl, rfl⟩

theorem shadows_uploadAll {upload' : Artifact → Stepwise (σ × List ε) (Except PublishError UploadResponse)}
    {upload : Artifact → Stepwise σ (Except PublishError UploadResponse)} (h : ∀ a, Stepwise.Shadows (upload' a) (upload a))
    (c : Channel) (idempotent : Bool) (artifacts : List Artifact) (created : Bool) :
    Stepwise.Shadows (Publisher.uploadAll upload' c idempotent created artifacts)
      (Publisher.uploadAll upload c idempotent created artifacts) := by
  induction artifacts generalizing created with
  | nil => exact .done _
  | cons a rest ih =>
    refine (h a).bind fun answer => ?_
    cases answer with
    | error e => exact .done _
    | ok response =>
      cases response with
      | created => exact ih true
      | alreadyExists =>
        cases idempotent with
        | true => exact ih created
        | false => exact .done _

/-- What is admitted does not depend on whether anything is written down. -/
theorem admission_eq (h : q.Records p) (now : Timestamp) (c : Channel) (set : ArtifactSet) (credential : Credential) :
    q.publisher.admission now c set credential = p.publisher.admission now c set credential := by
  unfold Publisher.admission
  rw [h.endpoints]

theorem shadows_publish (h : q.Records p) (c : Channel) (set : ArtifactSet) (credential : Credential) (idempotent : Bool) :
    Stepwise.Shadows (q.publisher.publish c set credential idempotent) (p.publisher.publish c set credential idempotent) := by
  refine Stepwise.Shadows.bind ?_ fun answer => .done _
  unfold Publisher.tryPublish
  rw [h.clock]
  refine (Stepwise.shadows_observe p.publisher.clock).bind fun now => ?_
  rw [h.admission_eq]
  cases p.publisher.admission now c set credential with
  | error e => exact .done _
  | ok endpoint => exact shadows_uploadAll (fun a => h.registry _) c idempotent set.artifacts false

/-- A publish beside the log does what the publish does. -/
theorem shadows_publishTo (h : q.Records p) (set : ArtifactSet) (c : Channel) :
    Stepwise.Shadows (q.publishTo set c) (p.publishTo set c) := by
  have now : q.now = fun x => p.now x.1 := funext h.now_eq
  unfold publishTo
  rw [now, h.idempotent]
  refine (Stepwise.shadows_observe p.now).bind fun start => (h.issuer c).bind fun answer => ?_
  cases answer with
  | error e => exact (Stepwise.shadows_observe p.now).bind fun finish => .done _
  | ok credential =>
    refine (h.shadows_publish c set credential (p.idempotent.get c)).bind fun outcome => ?_
    exact (Stepwise.shadows_observe p.now).bind fun finish => .done _

/-- What can come of publishes can come of them beside a log, whatever it holds at first. -/
theorem published (h : q.Records p) {set : ArtifactSet} {d : Decision} {s s' : σ} {published : List (Channel × Outcome × UInt64)}
    (done : p.Published set d s published s') (log : List ε) : ∃ log', q.Published set d (s, log) published (s', log') := by
  cases done with
  | nowhere => exact ⟨log, .nowhere⟩
  | staging =>
    obtain ⟨outcome, after⟩ := (h.shadows_publishTo set .staging).run (s, log)
    refine ⟨((q.publishTo set .staging).run (s, log)).2.2, ?_⟩
    rw [← outcome, ← after]
    exact .staging
  | both steps =>
    obtain ⟨log', steps'⟩ := (h.shadows_publishTo set .staging).interleaving (h.shadows_publishTo set .production) steps log
    exact ⟨log', .both steps'⟩

/-- What can come of publishes beside a log can come of them without. -/
theorem published_of (h : q.Records p) {set : ArtifactSet} {d : Decision} {x y : σ × List ε}
    {published : List (Channel × Outcome × UInt64)} (done : q.Published set d x published y) :
    p.Published set d x.1 published y.1 := by
  cases done with
  | nowhere => exact .nowhere
  | staging =>
    obtain ⟨outcome, after⟩ := (h.shadows_publishTo set .staging).run x
    rw [outcome, after]
    exact .staging
  | both steps => exact .both ((h.shadows_publishTo set .staging).of_interleaving (h.shadows_publishTo set .production) steps)

/-- A run beside a log ends as it can without. -/
theorem ends_of (h : q.Records p) {id : RunId} {t : Trigger} {x y : σ × List ε} {published : List (Channel × Outcome × UInt64)}
    {progress : Progress} (ends : q.Ends id t x published progress y) : p.Ends id t x.1 published progress y.1 := by
  cases ends with
  | aborted prepared => exact .aborted (h.prepare_of prepared).1
  | concluded prepared done =>
    rw [h.now_eq]
    exact .concluded (h.prepare_of prepared).1 (h.published_of done)

/-- The ends of a run with a log and without are the same, beside the log. -/
theorem ends_iff (h : q.Records p) (id : RunId) (t : Trigger) (s : σ) (published : List (Channel × Outcome × UInt64))
    (progress : Progress) (s' : σ) :
    p.Ends id t s published progress s' ↔ ∃ log, q.Ends id t (s, []) published progress (s', log) := by
  constructor
  · intro ends
    cases ends with
    | aborted prepared =>
      refine ⟨[], .aborted ?_⟩
      rw [h.prepare_eq, prepared]
    | @concluded prepared _ s₁ _ reached done =>
      have reached' : q.prepare id t (s, []) = (.ok prepared, (s₁, [])) := by rw [h.prepare_eq, reached]
      obtain ⟨log, done'⟩ := h.published done []
      have ends' := Ends.concluded reached' done'
      rw [h.now_eq] at ends'
      exact ⟨log, ends'⟩
  · rintro ⟨log, ends⟩
    exact h.ends_of ends

end Records

end ReleaseGate.Pipeline
