import ReleaseGate.Proofs.Publish.Uploads
import ReleaseGate.Proofs.Run.Course
import ReleaseGate.Proofs.Stepwise.Observation

/-!
# What the publishes of a run may do

A publish to a channel asks for a credential and makes uploads, and does nothing else but look at the clock. So what these two may
do to the state, the publish may do (`moves_publishTo`), and publishes whose credentials and uploads go in step go in step
(`alike_publishTo`). `Published.moves` and `Published.alike` lift both to all publishes of a run, in whichever order their steps
come.
-/

namespace ReleaseGate

namespace Pipeline

variable {σ τ ν : Type}

/-! ## What every step may do -/

/-- What an issuer may do, and the uploads to the endpoint of a channel with a credential that it issues, a publish to the channel
may do. -/
theorem moves_publishTo {Q : σ → σ → Prop} (refl : ∀ s, Q s s) {p : Pipeline σ} {c : Channel} {Issued : Credential → Prop}
    (issues : (p.issuer c).Ensures Q fun answer => ∀ credential, answer = .ok credential → Issued credential)
    (uploads : ∀ u : Upload, p.publisher.endpoints.get c = some u.endpoint → Issued u.credential →
      (p.publisher.registry u).Moves Q)
    (set : ArtifactSet) : (p.publishTo set c).Moves Q := by
  have finish : ∀ (outcome : Outcome) (start : Timestamp),
      (Stepwise.observe p.now >>= fun finish =>
        (pure (outcome, finish.millisecondsSince start) : Stepwise _ _)).Moves Q :=
    fun outcome start => (Stepwise.moves_observe refl _).bind fun _ => Stepwise.moves_pure _
  refine (Stepwise.moves_observe refl p.now).bind fun start => issues.bind fun answer issued => ?_
  cases answer with
  | error fault => exact finish (fault.toOutcome c) start
  | ok credential =>
    have each : ∀ u : Upload, p.publisher.endpoints.get c = some u.endpoint → u.credential = credential →
        (p.publisher.registry u).Moves Q := fun u known same => uploads u known (same ▸ issued credential rfl)
    have published : (p.publisher.publish c set credential (p.idempotent.get c)).Moves Q :=
      (Publisher.moves_tryPublish refl each set _).bind fun _ => Stepwise.moves_pure _
    exact published.bind fun outcome => finish outcome start

/-- What each publish may do, all of them may do in whichever order their steps come. -/
theorem Published.moves {Q : σ → σ → Prop} (refl : ∀ s, Q s s) (trans : ∀ {r s t}, Q r s → Q s t → Q r t) {p : Pipeline σ}
    {set : ArtifactSet} (each : ∀ c, (p.publishTo set c).Moves Q) {d : Decision} {s s' : σ}
    {published : List (Channel × Outcome × UInt64)} (h : p.Published set d s published s') : Q s s' := by
  cases h with
  | nowhere => exact refl s
  | staging => exact (each .staging).run refl trans s
  | both h => exact Stepwise.Moves.interleaving refl trans (each .staging) (each .production) h

/-! ## Publishes in step -/

/-- Two answers to a request for a credential are the same failure, or credentials that `K` relates. -/
def AnsweredAlike (K : Credential → Credential → Prop) : Except PublishError Credential → Except PublishError Credential → Prop
  | .ok credential, .ok credential' => K credential credential'
  | .error e, .error e' => e = e'
  | _, _ => False

/-- Publishes to a channel go in step, to the same outcome, when the credentials that they get and the uploads with these do. The
credentials are of one channel and never expire; the clocks may show any times, which make nothing but durations of them. -/
theorem alike_publishTo {v : σ → ν} {w : τ → ν} {p : Pipeline σ} {q : Pipeline τ} {c : Channel}
    {K : Credential → Credential → Prop} (endpoint : p.publisher.endpoints.get c = q.publisher.endpoints.get c)
    (idempotent : p.idempotent.get c = q.idempotent.get c)
    (issued : Stepwise.Alike v w (AnsweredAlike K) (p.issuer c) (q.issuer c))
    (lasting : ∀ credential credential', K credential credential' →
      credential.channel = credential'.channel ∧ credential.expiresAt = none ∧ credential'.expiresAt = none)
    {set : ArtifactSet}
    (uploads : ∀ endpoint credential credential', q.publisher.endpoints.get c = some endpoint → K credential credential' →
      ∀ artifact ∈ set.artifacts, Stepwise.Alike v w Eq (p.publisher.registry ⟨endpoint, set, artifact, credential⟩)
        (q.publisher.registry ⟨endpoint, set, artifact, credential'⟩)) :
    Stepwise.Alike v w (fun x y => x.1 = y.1) (p.publishTo set c) (q.publishTo set c) := by
  have finish : ∀ (outcome : Outcome) (start start' : Timestamp),
      Stepwise.Alike v w (fun x y => x.1 = y.1)
        (Stepwise.observe p.now >>= fun finish => (pure (outcome, finish.millisecondsSince start) : Stepwise _ _))
        (Stepwise.observe q.now >>= fun finish => (pure (outcome, finish.millisecondsSince start') : Stepwise _ _)) :=
    fun outcome start start' =>
      (Stepwise.alike_observe (R := fun _ _ => True) fun _ _ _ => trivial).bind fun _ _ _ => .done rfl
  refine (Stepwise.alike_observe (R := fun _ _ => True) fun _ _ _ => trivial).bind fun start start' _ => ?_
  refine issued.bind fun answer answer' related => ?_
  cases answer with
  | error fault =>
    cases answer' with
    | ok credential => exact related.elim
    | error fault' =>
      obtain rfl : fault = fault' := related
      exact finish (fault.toOutcome c) start start'
  | ok credential =>
    cases answer' with
    | error fault' => exact related.elim
    | ok credential' =>
      obtain ⟨scope, never, never'⟩ := lasting credential credential' related
      have tried := Publisher.alike_tryPublish endpoint scope never never'
        (fun endpoint known => uploads endpoint credential credential' known related) (q.idempotent.get c)
      have published : Stepwise.Alike v w Eq (p.publisher.publish c set credential (p.idempotent.get c))
          (q.publisher.publish c set credential' (q.idempotent.get c)) := by
        rw [idempotent]
        refine tried.bind fun result result' ended => ?_
        rw [ended]
        exact .done rfl
      refine published.bind fun outcome outcome' ended => ?_
      rw [ended]
      exact finish outcome' start start'

/-- When the publishes of two pipelines to each channel go in step, and each leaves what the other channel sees as it is, all of them
come to the same outcomes, and make the same of what is seen, in whichever orders the steps of each pair come. -/
theorem Published.alike {v : Channel → σ → ν} {w : Channel → τ → ν} {p : Pipeline σ} {q : Pipeline τ} {set : ArtifactSet}
    (each : ∀ c, Stepwise.Alike (v c) (w c) (fun x y => x.1 = y.1) (p.publishTo set c) (q.publishTo set c))
    (apart : ∀ c d, c ≠ d → (p.publishTo set c).Keeps (v d) ∧ (q.publishTo set c).Keeps (w d)) {d : Decision} {s s' : σ} {t t' : τ}
    {published published' : List (Channel × Outcome × UInt64)} (h : p.Published set d s published s')
    (h' : q.Published set d t published' t') (same : ∀ c, v c s = w c t) :
    published.map (fun x => (x.1, x.2.1)) = published'.map (fun x => (x.1, x.2.1)) ∧ ∀ c, v c s' = w c t' := by
  cases h with
  | nowhere =>
    cases h'
    exact ⟨rfl, same⟩
  | staging =>
    cases h'
    obtain ⟨outcome, after⟩ := (each .staging).run (same .staging)
    refine ⟨by simp only [List.map_cons, List.map_nil, outcome], fun c => ?_⟩
    cases c with
    | staging => exact after
    | production =>
      obtain ⟨kept, kept'⟩ := apart .staging .production (by decide)
      exact (kept.run s).trans ((same .production).trans (kept'.run t).symm)
  | both h =>
    cases h' with
    | both h' =>
      obtain ⟨kept, kept'⟩ := apart .staging .production (by decide)
      obtain ⟨spared, spared'⟩ := apart .production .staging (by decide)
      obtain ⟨staging, afterStaging⟩ := (each .staging).of_interleavings spared spared' h h' (same .staging)
      obtain ⟨production, afterProduction⟩ :=
        (each .production).of_interleavings kept kept' h.symm h'.symm (same .production)
      refine ⟨by simp only [List.map_cons, List.map_nil, staging, production], fun c => ?_⟩
      cases c with
      | staging => exact afterStaging
      | production => exact afterProduction

end Pipeline

end ReleaseGate
