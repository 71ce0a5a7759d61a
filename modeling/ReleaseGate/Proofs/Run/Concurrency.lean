import ReleaseGate.Proofs.Run.Publishes
import ReleaseGate.Proofs.Run.Times

/-!
# Publishes at the same time

A decision that opens both channels lets two publishes run at the same time, on one registry. When the channels have different
endpoints neither disturbs the other. What a publish does to the shelf of its endpoint depends on that shelf, its token and its
settings alone (`SameFor.alike_publishTo`), and it leaves every other shelf as it is (`keeps_shelf_publishTo`). So whichever way
the steps of the two fall between each other, what comes of them is what comes of the staging publish followed by the production
publish. `publishes_undisturbed` says this of the outcomes, the endpoints and the report, in which only the times can differ.
-/

namespace ReleaseGate

namespace Pipeline

/-! ## One publish -/

/-- A pipeline publishes to channels in memory, with fixed tokens. Its clock, its source and its builder may be any. -/
structure InMemory (p : Pipeline Rehearsal) (tokens : PerChannel (Option String)) : Prop where
  issuer : p.issuer = Rehearsal.issuer tokens
  registry : p.publisher.registry = fun u => Stepwise.within Rehearsal.registryPart (MemoryRegistry.upload u)

/-- All that a rehearsal holds for an endpoint, and nothing where there is no endpoint. -/
def shelfOf (endpoint : Option String) (s : Rehearsal) : MemoryRegistry.Shelf :=
  (endpoint.map s.registry.shelf).getD ⟨[], none, []⟩

/-- The channels have different endpoints, as far as they have one. -/
def HasDistinctEndpoints (p : Pipeline Rehearsal) : Prop :=
  ∀ e, p.publisher.endpoints.get .staging = some e → p.publisher.endpoints.get .production ≠ some e

theorem HasDistinctEndpoints.symm {p : Pipeline Rehearsal} (h : p.HasDistinctEndpoints) :
    ∀ e, p.publisher.endpoints.get .production = some e → p.publisher.endpoints.get .staging ≠ some e :=
  fun e production staging => h e staging production

variable {p q : Pipeline Rehearsal} {tokens tokens' : PerChannel (Option String)}

/-- To ask for a credential changes no shelf. -/
theorem keeps_shelf_issue (memory : p.InMemory tokens) (c : Channel) (e : String) :
    (p.issuer c).Keeps fun s => s.registry.shelf e := by
  rw [memory.issuer]
  exact fun _ => ⟨rfl, trivial⟩

/-- A publish to a channel leaves every shelf as it is that is not the one of its endpoint. -/
theorem keeps_shelf_publishTo (memory : p.InMemory tokens) (set : ArtifactSet) {c : Channel} {e : String}
    (other : p.publisher.endpoints.get c ≠ some e) : (p.publishTo set c).Keeps fun s => s.registry.shelf e := by
  refine moves_publishTo (Q := fun s s' : Rehearsal => s'.registry.shelf e = s.registry.shelf e) (fun _ => rfl)
    ((keeps_shelf_issue memory c e).ensures fun _ _ _ => trivial) (fun u known _ => ?_) set
  have apart : u.endpoint ≠ e := fun same => other (known.trans (congrArg some same))
  rw [memory.registry]
  exact (MemoryRegistry.keeps_shelf_upload apart).within fun _ _ => id

/-- Two pipelines, each in a state of its own, have the same for a channel: the token, the endpoint with all it holds, and whether
files that are there already are a failure. -/
structure SameFor (c : Channel) (p q : Pipeline Rehearsal) (tokens tokens' : PerChannel (Option String)) (s t : Rehearsal) :
    Prop where
  token : tokens.get c = tokens'.get c
  endpoint : p.publisher.endpoints.get c = q.publisher.endpoints.get c
  idempotent : p.idempotent.get c = q.idempotent.get c
  shelf : ∀ e, q.publisher.endpoints.get c = some e → s.registry.shelf e = t.registry.shelf e

/-- For the same token the same credential is issued, and it never expires. -/
theorem alike_issue {v w : Rehearsal → MemoryRegistry.Shelf} {c : Channel} (memory : p.InMemory tokens)
    (memory' : q.InMemory tokens') (token : tokens.get c = tokens'.get c)
    (issued : ∀ (s : Rehearsal) (issued : List Channel), v { s with issued } = v s ∧ w { s with issued } = w s) :
    Stepwise.Alike v w (AnsweredAlike fun a b => a = b ∧ a.expiresAt = none) (p.issuer c) (q.issuer c) := by
  have same : (TokenIssuer.mk tokens).credential c = (TokenIssuer.mk tokens').credential c := by
    unfold TokenIssuer.credential
    simp only [token]
  have answered : AnsweredAlike (fun a b => a = b ∧ a.expiresAt = none) ((TokenIssuer.mk tokens).credential c)
      ((TokenIssuer.mk tokens').credential c) := by
    rw [← same]
    unfold TokenIssuer.credential
    cases tokens.get c with
    | none => rfl
    | some token => exact ⟨rfl, rfl⟩
  rw [memory.issuer, memory'.issuer]
  refine .step (fun s t seen => ?_) fun s t seen => .done answered
  exact (issued s _).1.trans (seen.trans (issued t _).2.symm)

/-- A publish to a channel goes by the token of the channel, its endpoint and the shelf of that, and by nothing else: two of them
that have this in common go in step, to the same outcome. -/
theorem SameFor.alike_publishTo {c : Channel} {s t : Rehearsal} (memory : p.InMemory tokens) (memory' : q.InMemory tokens')
    (same : SameFor c p q tokens tokens' s t) (set : ArtifactSet) :
    Stepwise.Alike (shelfOf (q.publisher.endpoints.get c)) (shelfOf (q.publisher.endpoints.get c)) (fun x y => x.1 = y.1)
      (p.publishTo set c) (q.publishTo set c) := by
  refine Pipeline.alike_publishTo same.endpoint same.idempotent (alike_issue memory memory' same.token fun _ _ => ⟨rfl, rfl⟩) ?_ ?_
  · rintro credential _ ⟨rfl, never⟩
    exact ⟨rfl, never, never⟩
  · rintro endpoint credential _ known ⟨rfl, -⟩ artifact -
    have replaced : ∀ (s : Rehearsal) (r : MemoryRegistry), Rehearsal.registryPart.get (Rehearsal.registryPart.set s r) = r :=
      fun _ _ => rfl
    rw [known, memory.registry, memory'.registry]
    exact (MemoryRegistry.alike_upload ⟨endpoint, set, artifact, credential⟩).within replaced

/-! ## Two publishes -/

/-- A publish leaves the shelf of an endpoint as it is that is not its own. -/
theorem keeps_shelfOf_publishTo (memory : p.InMemory tokens) (set : ArtifactSet) {d : Channel} {endpoint : Option String}
    (apart : ∀ e, endpoint = some e → p.publisher.endpoints.get d ≠ some e) : (p.publishTo set d).Keeps (shelfOf endpoint) := by
  cases endpoint with
  | none => exact Stepwise.keeps_const _ _
  | some e => exact keeps_shelf_publishTo memory set (apart e rfl)

/-- Beside a publish to another endpoint, a publish comes to what it comes to alone, in any pipeline and state that have the same
for its channel. -/
theorem publishTo_of_interleaving {c d : Channel} {s s' t : Rehearsal} {set : ArtifactSet} {x y : Outcome × UInt64}
    (memory : p.InMemory tokens) (memory' : q.InMemory tokens') (same : SameFor c p q tokens tokens' s t)
    (apart : ∀ e, p.publisher.endpoints.get c = some e → p.publisher.endpoints.get d ≠ some e)
    (h : Stepwise.Interleaving (p.publishTo set c) (p.publishTo set d) s x y s') :
    x.1 = ((q.publishTo set c).run t).1.1 ∧
      ∀ e, p.publisher.endpoints.get c = some e → s'.registry.shelf e = ((q.publishTo set c).run t).2.registry.shelf e := by
  have alike := same.alike_publishTo memory memory' set
  rw [← same.endpoint] at alike
  have keeps := keeps_shelfOf_publishTo memory set apart
  have before : shelfOf (p.publisher.endpoints.get c) s = shelfOf (p.publisher.endpoints.get c) t := by
    cases known : p.publisher.endpoints.get c with
    | none => rfl
    | some e => exact same.shelf e (same.endpoint.symm.trans known)
  obtain ⟨outcome, after⟩ := alike.of_interleaving keeps h before
  refine ⟨outcome, fun e known => ?_⟩
  rw [known] at after
  exact after

/-- What comes of both publishes when the one to staging is complete before the one to production starts. -/
def inOrder (p : Pipeline Rehearsal) (set : ArtifactSet) (s : Rehearsal) : List (Channel × Outcome × UInt64) × Rehearsal :=
  (p.publishAll set Channel.all).run s

theorem inOrder_eq (p : Pipeline Rehearsal) (set : ArtifactSet) (s : Rehearsal) :
    p.inOrder set s =
      let first := (p.publishTo set .staging).run s
      let second := (p.publishTo set .production).run first.2
      ([(.staging, first.1), (.production, second.1)], second.2) := by
  unfold inOrder Channel.all
  rw [run_publishAll_cons, run_publishAll_cons]
  rfl

/-- What came of two publishes is what comes of them in order. -/
structure Undisturbed (p : Pipeline Rehearsal) (tokens : PerChannel (Option String)) (prepared : Prepared) (s : Rehearsal)
    (published : List (Channel × Outcome × UInt64)) (s' : Rehearsal) : Prop where
  outcomes : published.map (fun x => (x.1, x.2.1)) = (p.inOrder prepared.set s).1.map fun x => (x.1, x.2.1)
  files : ∀ e, s'.registry.filesAt e = (p.inOrder prepared.set s).2.registry.filesAt e
  attempts : ∀ e, s'.registry.attemptsAt e = (p.inOrder prepared.set s).2.registry.attemptsAt e
  /-- The report is that of the publishes in order, also when these belong to a run of another identity and other times. -/
  report : ∀ (id : RunId) (time : Timestamp) (progress : Progress),
    progress.report.stamped id time = prepared.progress.report.stamped id time →
    let (published', s'') := p.inOrder prepared.set s
    (conclude prepared published (p.now s')).report.stamped id time =
      (conclude { prepared with progress } published' (p.now s'')).report.stamped id time
  /-- The outcome of a channel is that of its publish alone, and whatever else is changed that concerns the other channel only. -/
  alone : ∀ (c : Channel) (outcome : Outcome) (durationMs : UInt64), (c, outcome, durationMs) ∈ published →
    ∀ (q : Pipeline Rehearsal) (tokens' : PerChannel (Option String)) (t : Rehearsal), q.InMemory tokens' →
      SameFor c p q tokens tokens' s t → ((q.publishTo prepared.set c).run t).1.1 = outcome

theorem SameFor.refl (c : Channel) (p : Pipeline Rehearsal) (tokens : PerChannel (Option String)) (s : Rehearsal) :
    SameFor c p p tokens tokens s s := ⟨rfl, rfl, rfl, fun _ _ => rfl⟩

/-- In all orders of the steps of two publishes to different endpoints, both have the same outcomes. -/
theorem outcomes_of_interleavings {s s₁ s₂ : Rehearsal} {set : ArtifactSet} {x₁ y₁ x₂ y₂ : Outcome × UInt64}
    (memory : p.InMemory tokens) (distinct : p.HasDistinctEndpoints)
    (h₁ : Stepwise.Interleaving (p.publishTo set .staging) (p.publishTo set .production) s x₁ y₁ s₁)
    (h₂ : Stepwise.Interleaving (p.publishTo set .staging) (p.publishTo set .production) s x₂ y₂ s₂) :
    x₁.1 = x₂.1 ∧ y₁.1 = y₂.1 := by
  have staging := SameFor.refl .staging p tokens s
  have production := SameFor.refl .production p tokens s
  constructor
  · have first := (publishTo_of_interleaving memory memory staging distinct h₁).1
    have second := (publishTo_of_interleaving memory memory staging distinct h₂).1
    exact first.trans second.symm
  · have first := (publishTo_of_interleaving memory memory production distinct.symm h₁.symm).1
    have second := (publishTo_of_interleaving memory memory production distinct.symm h₂.symm).1
    exact first.trans second.symm

/-- In all orders of the steps of two publishes to different endpoints, every endpoint ends up the same. -/
theorem shelf_of_interleavings {s s₁ s₂ : Rehearsal} {set : ArtifactSet} {x₁ y₁ x₂ y₂ : Outcome × UInt64}
    (memory : p.InMemory tokens) (distinct : p.HasDistinctEndpoints)
    (h₁ : Stepwise.Interleaving (p.publishTo set .staging) (p.publishTo set .production) s x₁ y₁ s₁)
    (h₂ : Stepwise.Interleaving (p.publishTo set .staging) (p.publishTo set .production) s x₂ y₂ s₂) (e : String) :
    s₁.registry.shelf e = s₂.registry.shelf e := by
  -- an endpoint is the one of staging, the one of production, or one that neither publish touches
  by_cases staging : p.publisher.endpoints.get .staging = some e
  · have same := SameFor.refl .staging p tokens s
    have first := (publishTo_of_interleaving memory memory same distinct h₁).2 e staging
    have second := (publishTo_of_interleaving memory memory same distinct h₂).2 e staging
    exact first.trans second.symm
  · by_cases production : p.publisher.endpoints.get .production = some e
    · have same := SameFor.refl .production p tokens s
      have first := (publishTo_of_interleaving memory memory same distinct.symm h₁.symm).2 e production
      have second := (publishTo_of_interleaving memory memory same distinct.symm h₂.symm).2 e production
      exact first.trans second.symm
    · have kept := keeps_shelf_publishTo memory set staging
      have kept' := keeps_shelf_publishTo memory set production
      exact (kept.interleaving kept' h₁).trans (kept.interleaving kept' h₂).symm

/-- Two publishes to different endpoints do not disturb each other, whichever way their steps fall between each other. -/
theorem publishes_undisturbed {prepared : Prepared} {s s' : Rehearsal} {published : List (Channel × Outcome × UInt64)}
    (memory : p.InMemory tokens) (distinct : p.HasDistinctEndpoints) (both : ∀ c, prepared.decision.allows c = true)
    (done : p.Published prepared.set prepared.decision s published s') : p.Undisturbed tokens prepared s published s' := by
  generalize decided : prepared.decision = d at both done
  cases done with
  | nowhere => cases both .staging
  | staging => cases both .production
  | @both s s' x y h =>
    have ordered := Stepwise.interleaving_run (p.publishTo prepared.set .staging) (p.publishTo prepared.set .production) s
    obtain ⟨staging, production⟩ := outcomes_of_interleavings memory distinct h ordered
    have shelves := shelf_of_interleavings memory distinct h ordered
    have outcomes : [(Channel.staging, x), (.production, y)].map (fun z => (z.1, z.2.1)) =
        (p.inOrder prepared.set s).1.map fun z => (z.1, z.2.1) := by
      rw [inOrder_eq]
      simp only [List.map_cons, List.map_nil, staging, production]
    refine ⟨outcomes, fun e => ?_, fun e => ?_, fun id time progress same => ?_, ?_⟩
    · rw [inOrder_eq]
      exact congrArg MemoryRegistry.Shelf.files (shelves e)
    · rw [inOrder_eq]
      exact congrArg MemoryRegistry.Shelf.attempts (shelves e)
    · exact stamped_conclude same.symm outcomes _ _
    · intro c outcome durationMs mem q tokens' t memory' alike
      rcases List.mem_cons.mp mem with here | later
      · obtain ⟨rfl, rfl⟩ := Prod.mk.inj here
        exact (publishTo_of_interleaving memory memory' alike distinct h).1.symm
      · obtain ⟨rfl, rfl⟩ := Prod.mk.inj (List.mem_singleton.mp later)
        exact (publishTo_of_interleaving memory memory' alike distinct.symm h.symm).1.symm

/-- The release of the widget past the gate. -/
def opened : Prepared :=
  { progress := .start Widget.runId .epoch, context := Widget.context, set := Widget.set, verdict := .pass
    decision := .stagingAndProduction }

/-- When staging refuses everything and the production publish of the widget is complete before the other one starts, neither
disturbs the other. -/
theorem publishes_undisturbed_opened :
    let s : Rehearsal := { registry := { failing := [("https://test.widget.example", 503)] } }
    ∃ published s', Widget.pipeline.Published opened.set opened.decision s published s' ∧
      Widget.pipeline.Undisturbed ⟨some "first", some "second"⟩ opened s published s' := by
  intro s
  have done := Pipeline.Published.both (Stepwise.interleaving_run (Widget.pipeline.publishTo opened.set .production)
    (Widget.pipeline.publishTo opened.set .staging) s).symm
  have distinct : Widget.pipeline.HasDistinctEndpoints := by
    intro e staging production
    have same : "https://test.widget.example" = "https://widget.example" := Option.some.inj (staging.trans production.symm)
    exact absurd same (by decide)
  have both : ∀ c, opened.decision.allows c = true := fun c => rfl
  exact ⟨_, _, done, publishes_undisturbed ⟨rfl, rfl⟩ distinct both done⟩

end Pipeline

end ReleaseGate
