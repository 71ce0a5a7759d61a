import ReleaseGate.Proofs.Publish.Convergence
import ReleaseGate.Proofs.Run.Agreement
import ReleaseGate.Proofs.Run.Calls
import ReleaseGate.Proofs.Run.Concurrency
import ReleaseGate.Proofs.Run.ExitStatus

/-!
# Runs that are repeated

A run that succeeded can be repeated, whatever other runs come in between. As far as its source and its builder are reproducible,
it comes to the same set and the same decision. It finds the files of the set on every channel that is open: the run that succeeded
left them there (`isThere_of_published`), and no run takes a file away (`grows_of_runs`). So the repeated run succeeds, skips every
publish and changes no file (`reruns_safe`).
-/

namespace ReleaseGate

namespace Pipeline

variable {p : Pipeline Rehearsal} {tokens : PerChannel (Option String)}

/-! ## What can be repeated -/

/-- Source and builder are reproducible: the source has always the same answer, every version is always built in the same way, and
neither has anything to do with the channels. -/
structure IsReproducible (p : Pipeline Rehearsal) : Prop where
  source : ∀ s t, (p.source s).1 = (p.source t).1
  builder : ∀ version s t, p.BuildsAlike p version s t
  sourceApart : ∀ s, (p.source s).2.registry = s.registry
  builderApart : ∀ version s, (p.builder version s).2.registry = s.registry

/-- A pipeline can be run again and again: its channels are in memory and have different endpoints, each has a token and takes files
that are there already for no failure, and what is built is reproducible. -/
structure IsRepeatable (p : Pipeline Rehearsal) (tokens : PerChannel (Option String)) : Prop where
  memory : p.InMemory tokens
  endpoint : ∀ c, ∃ e, p.publisher.endpoints.get c = some e
  distinct : p.HasDistinctEndpoints
  token : ∀ c, ∃ secret, tokens.get c = some secret
  idempotent : ∀ c, p.idempotent.get c = true
  reproducible : p.IsReproducible

/-- No endpoint of a pipeline refuses what is uploaded to it. -/
def IsAccepted (p : Pipeline Rehearsal) (r : MemoryRegistry) : Prop :=
  ∀ c e, p.publisher.endpoints.get c = some e → r.failing.lookup e = none

/-- Any number of runs, one after another, each by a trigger of its own and with its publishes in whichever order. -/
inductive Runs {σ : Type} (p : Pipeline σ) : σ → σ → Prop where
  | nothing {s : σ} : Runs p s s
  | more {id : RunId} {t : Trigger} {s s' s'' : σ} {published : List (Channel × Outcome × UInt64)} {progress : Progress}
      (first : p.Ends id t s published progress s') (later : Runs p s' s'') : Runs p s s''

/-- Nothing happens to the channels before the publishes of a run. -/
theorem registry_prepare (reproducible : p.IsReproducible) {id : RunId} {t : Trigger} {s s' : Rehearsal}
    {r : Except Progress Prepared} (h : p.prepare id t s = (r, s')) : s'.registry = s.registry :=
  prepare_keeps reproducible.sourceApart reproducible.builderApart h

/-- What is built leaves the channels alone. -/
theorem registry_of_built (reproducible : p.IsReproducible) {t : Trigger} {s s₂ : Rehearsal} {context : RunContext}
    {version : Version} {set : ArtifactSet} (built : p.Built t s context version set s₂) : s₂.registry = s.registry :=
  built.keeps reproducible.sourceApart reproducible.builderApart

/-- What every upload may do to a registry, a run may do. -/
theorem moves_of_ends {Q : MemoryRegistry → MemoryRegistry → Prop} (refl : ∀ r, Q r r) (trans : ∀ {r s t}, Q r s → Q s t → Q r t)
    (upload : ∀ u, (MemoryRegistry.upload u).Moves Q) (memory : p.InMemory tokens) (reproducible : p.IsReproducible) {id : RunId}
    {t : Trigger} {s s' : Rehearsal} {published : List (Channel × Outcome × UInt64)} {progress : Progress}
    (h : p.Ends id t s published progress s') : Q s.registry s'.registry := by
  have each : ∀ set c, (p.publishTo set c).Moves fun s s' : Rehearsal => Q s.registry s'.registry := by
    intro set c
    have issues : (p.issuer c).Moves fun s s' : Rehearsal => Q s.registry s'.registry := by
      rw [memory.issuer]
      exact fun s => ⟨refl s.registry, trivial⟩
    refine moves_publishTo (fun s => refl s.registry) (issues.ensures fun _ _ _ => trivial) (fun u _ _ => ?_) set
    rw [memory.registry]
    exact (upload u).within fun _ _ h => h
  cases h with
  | aborted h =>
    rw [registry_prepare reproducible h]
    exact refl _
  | concluded h done =>
    have moved := done.moves (Q := fun s s' : Rehearsal => Q s.registry s'.registry) (fun _ => refl _) trans (each _)
    rw [registry_prepare reproducible h] at moved
    exact moved

/-- What every upload may do to a registry, any number of runs may do. -/
theorem moves_of_runs {Q : MemoryRegistry → MemoryRegistry → Prop} (refl : ∀ r, Q r r) (trans : ∀ {r s t}, Q r s → Q s t → Q r t)
    (upload : ∀ u, (MemoryRegistry.upload u).Moves Q) (memory : p.InMemory tokens) (reproducible : p.IsReproducible)
    {s s' : Rehearsal} (h : p.Runs s s') : Q s.registry s'.registry := by
  induction h with
  | nothing => exact refl _
  | more first _ ih => exact trans (moves_of_ends refl trans upload memory reproducible first) ih

/-- Runs add files and take none away. -/
theorem grows_of_runs (memory : p.InMemory tokens) (reproducible : p.IsReproducible) {s s' : Rehearsal} (h : p.Runs s s') :
    MemoryRegistry.Grows (fun _ => True) s.registry s'.registry :=
  moves_of_runs .refl .trans (fun _ => MemoryRegistry.moves_grows_upload trivial) memory reproducible h

/-- Runs do not change what is refused. -/
theorem accepted_of_runs (memory : p.InMemory tokens) (reproducible : p.IsReproducible) {s s' : Rehearsal} (h : p.Runs s s')
    (accepted : p.IsAccepted s.registry) : p.IsAccepted s'.registry := by
  have same : s'.registry.failing = s.registry.failing :=
    moves_of_runs (Q := fun r r' => r'.failing = r.failing) (fun _ => rfl) (fun h h' => h'.trans h)
      MemoryRegistry.keeps_failing_upload memory reproducible h
  intro c e known
  rw [same]
  exact accepted c e known

/-! ## Publishes that find their files -/

/-- How a publish ends in a pipeline that can be repeated, at an endpoint that refuses nothing, and the files after it. -/
theorem run_publishTo_of_accepting (repeatable : p.IsRepeatable tokens) {set : ArtifactSet} (filled : set.artifacts ≠ [])
    {c : Channel} {e : String} (known : p.publisher.endpoints.get c = some e) {s : Rehearsal}
    (accepting : s.registry.failing.lookup e = none) :
    let run := (p.publishTo set c).run s
    run.1.1 = (if set.artifacts.any fun a => !s.registry.contains e a.fileName then .succeeded else .skippedExisting) ∧
      run.2.registry.files = (s.registry.seedAll e (set.artifacts.map (·.fileName))).files := by
  intro run
  obtain ⟨secret, token⟩ := repeatable.token c
  let credential : Credential := { channel := c, secret }
  let asked : Rehearsal := { s with issued := s.issued ++ [c] }
  have issued : (p.issuer c).run s = (.ok credential, asked) := by
    rw [repeatable.memory.issuer]
    show ((TokenIssuer.mk tokens).credential c, asked) = _
    unfold TokenIssuer.credential
    rw [token]
  have admitted : p.publisher.admission (p.publisher.clock asked) c set credential = .ok e :=
    (p.publisher.admission_eq_ok_iff _ c set credential e).mpr ⟨rfl, rfl, known, List.isEmpty_eq_false_iff.mpr filled⟩
  let uploads := Publisher.uploadAll (fun artifact => MemoryRegistry.upload ⟨e, set, artifact, credential⟩) c true false set.artifacts
  have lawful : Rehearsal.registryPart.IsLawful := ⟨fun _ _ => rfl, fun _ => rfl, fun _ _ _ => rfl⟩
  have published : (p.publisher.publish c set credential true).run asked =
      (Publisher.outcomeOf c (uploads.run s.registry).1, { asked with registry := (uploads.run s.registry).2 }) := by
    rw [Publisher.run_publish, Publisher.run_tryPublish, admitted, repeatable.memory.registry]
    simp only
    rw [Publisher.uploadAll_within, Stepwise.run_within lawful]
    rfl
  have whole : run.1.1 = Publisher.outcomeOf c (uploads.run s.registry).1 ∧ run.2.registry = (uploads.run s.registry).2 := by
    show ((p.publishTo set c).run s).1.1 = _ ∧ ((p.publishTo set c).run s).2.registry = _
    unfold publishTo
    simp only [Stepwise.run_bind, Stepwise.run_observe, issued, repeatable.idempotent c, published]
    exact ⟨rfl, rfl⟩
  obtain ⟨ended, files⟩ := MemoryRegistry.run_uploadAll_of_accepting e set credential c set.artifacts false accepting
  rw [whole.1, whole.2]
  refine ⟨?_, files⟩
  show Publisher.outcomeOf c (uploads.run s.registry).1 = _
  rw [ended, Bool.false_or]
  rfl

/-- The files of a set are at an endpoint. -/
def IsThere (set : ArtifactSet) (e : String) (r : MemoryRegistry) : Prop :=
  ∀ a ∈ set.artifacts, r.contains e a.fileName = true

/-- A publish leaves the files of its set at its endpoint. -/
theorem isThere_publishTo (repeatable : p.IsRepeatable tokens) {set : ArtifactSet} (filled : set.artifacts ≠ []) {c : Channel}
    {e : String} (known : p.publisher.endpoints.get c = some e) {s : Rehearsal} (accepting : s.registry.failing.lookup e = none) :
    IsThere set e ((p.publishTo set c).run s).2.registry := by
  obtain ⟨-, files⟩ := run_publishTo_of_accepting repeatable filled known accepting
  intro a ha
  obtain ⟨new, added, -, each⟩ := s.registry.filesAt_seedAll e (set.artifacts.map (·.fileName))
  rw [← MemoryRegistry.mem_filesAt_iff, MemoryRegistry.filesAt_congr files, added, List.mem_append]
  by_cases before : a.fileName ∈ s.registry.filesAt e
  · exact .inl before
  · exact .inr ((each a.fileName).mpr ⟨before, List.mem_map_of_mem ha⟩)

/-- A publish whose files are at its endpoint already is skipped, and changes no file. -/
theorem skips_publishTo (repeatable : p.IsRepeatable tokens) {set : ArtifactSet} (filled : set.artifacts ≠ []) {c : Channel}
    {e : String} (known : p.publisher.endpoints.get c = some e) {s : Rehearsal} (accepting : s.registry.failing.lookup e = none)
    (there : IsThere set e s.registry) :
    ((p.publishTo set c).run s).1.1 = .skippedExisting ∧ ((p.publishTo set c).run s).2.registry.files = s.registry.files := by
  obtain ⟨ended, files⟩ := run_publishTo_of_accepting repeatable filled known accepting
  have nothing : ¬(set.artifacts.any fun a => !s.registry.contains e a.fileName) = true := by
    rw [MemoryRegistry.any_missing_iff]
    rintro ⟨a, ha, missing⟩
    exact missing (MemoryRegistry.mem_filesAt_iff.mpr (there a ha))
  have each : ∀ f ∈ set.artifacts.map (·.fileName), s.registry.contains e f = true := by
    intro f hf
    obtain ⟨a, ha, rfl⟩ := List.mem_map.mp hf
    exact there a ha
  rw [if_neg nothing] at ended
  rw [MemoryRegistry.seedAll_eq_self each] at files
  exact ⟨ended, files⟩

/-- Whichever way their steps fall between each other, each publish of a run comes to what it comes to alone, at its endpoint. -/
theorem alone_of_published (repeatable : p.IsRepeatable tokens) {set : ArtifactSet} {d : Decision} {s s' : Rehearsal}
    {published : List (Channel × Outcome × UInt64)} (done : p.Published set d s published s') {x : Channel × Outcome × UInt64}
    (hx : x ∈ published) :
    x.2.1 = ((p.publishTo set x.1).run s).1.1 ∧ ∀ e, p.publisher.endpoints.get x.1 = some e →
      s'.registry.shelf e = ((p.publishTo set x.1).run s).2.registry.shelf e := by
  have memory := repeatable.memory
  cases done with
  | nowhere => cases hx
  | staging =>
    obtain rfl := List.mem_singleton.mp hx
    exact ⟨rfl, fun _ _ => rfl⟩
  | both h =>
    rcases List.mem_cons.mp hx with rfl | hx
    · exact publishTo_of_interleaving memory memory (.refl .staging p tokens s) repeatable.distinct h
    · obtain rfl := List.mem_singleton.mp hx
      exact publishTo_of_interleaving memory memory (.refl .production p tokens s) repeatable.distinct.symm h.symm

/-- The publishes of a run leave every endpoint as it is to which none of them goes. -/
theorem shelf_of_published (memory : p.InMemory tokens) {set : ArtifactSet} {d : Decision} {s s' : Rehearsal}
    {published : List (Channel × Outcome × UInt64)} (done : p.Published set d s published s') {e : String}
    (elsewhere : ∀ x ∈ published, p.publisher.endpoints.get x.1 ≠ some e) : s'.registry.shelf e = s.registry.shelf e := by
  cases done with
  | nowhere => rfl
  | staging => exact (keeps_shelf_publishTo memory set (elsewhere _ List.mem_cons_self)).run s
  | both h =>
    have staging := keeps_shelf_publishTo memory set (elsewhere _ List.mem_cons_self)
    have production := keeps_shelf_publishTo memory set (elsewhere _ (List.mem_cons_of_mem _ List.mem_cons_self))
    exact staging.interleaving production h

/-- When the files of the set are on all channels that are open, every publish of a run is skipped and no endpoint is changed. -/
theorem skips_of_published (repeatable : p.IsRepeatable tokens) {set : ArtifactSet} (filled : set.artifacts ≠ []) {d : Decision}
    {s s' : Rehearsal} {published : List (Channel × Outcome × UInt64)} (accepted : p.IsAccepted s.registry)
    (there : ∀ c e, d.allows c = true → p.publisher.endpoints.get c = some e → IsThere set e s.registry)
    (done : p.Published set d s published s') :
    (∀ x ∈ published, x.2.1 = .skippedExisting) ∧ ∀ e, s'.registry.filesAt e = s.registry.filesAt e := by
  have allowed : ∀ x ∈ published, d.allows x.1 = true := by
    intro x hx
    have open_ : x.1 ∈ d.channels := done.channels ▸ List.mem_map_of_mem hx
    exact (List.mem_filter.mp open_).2
  have skips := fun x (hx : x ∈ published) e known =>
    skips_publishTo repeatable filled known (accepted x.1 e known) (there x.1 e (allowed x hx) known)
  constructor
  · intro x hx
    obtain ⟨e, known⟩ := repeatable.endpoint x.1
    exact (alone_of_published repeatable done hx).1.trans (skips x hx e known).1
  · intro e
    by_cases goes : ∃ x ∈ published, p.publisher.endpoints.get x.1 = some e
    · obtain ⟨x, hx, known⟩ := goes
      have shelf := (alone_of_published repeatable done hx).2 e known
      exact (congrArg MemoryRegistry.Shelf.files shelf).trans (MemoryRegistry.filesAt_congr (skips x hx e known).2 e)
    · have elsewhere : ∀ x ∈ published, p.publisher.endpoints.get x.1 ≠ some e := fun x hx known => goes ⟨x, hx, known⟩
      exact congrArg MemoryRegistry.Shelf.files (shelf_of_published repeatable.memory done elsewhere)

/-! ## Runs that are repeated -/

/-- A run repeats what another one has done: with the same version and decision it succeeds, skips every channel that is open, and
changes no file on any endpoint. -/
structure Repeats (v : Version) (d : Decision) (report : RunReport) (s s' : Rehearsal) : Prop where
  succeeded : report.succeeded = true
  version : report.version = some v
  decision : report.decision = some d
  skipped : ∀ c, d.allows c = true → report.channels.get c = some (.published .skippedExisting)
  files : ∀ e, s'.registry.filesAt e = s.registry.filesAt e

/-- Each channel that is open has a publish. -/
theorem exists_published_of_allows {σ : Type} {p : Pipeline σ} {set : ArtifactSet} {d : Decision} {s s' : σ}
    {published : List (Channel × Outcome × UInt64)} (done : p.Published set d s published s') {c : Channel}
    (allowed : d.allows c = true) : ∃ x ∈ published, x.1 = c := by
  have among : c ∈ published.map (·.1) := by
    rw [done.channels]
    exact List.mem_filter.mpr ⟨c.mem_all, allowed⟩
  exact List.mem_map.mp among

/-- After the publishes of a run, the files of its set are on all channels that are open. -/
theorem isThere_of_published (repeatable : p.IsRepeatable tokens) {set : ArtifactSet} (filled : set.artifacts ≠ []) {d : Decision}
    {s s' : Rehearsal} {published : List (Channel × Outcome × UInt64)} (accepted : p.IsAccepted s.registry)
    (done : p.Published set d s published s') {c : Channel} {e : String} (allowed : d.allows c = true)
    (known : p.publisher.endpoints.get c = some e) : IsThere set e s'.registry := by
  obtain ⟨x, hx, rfl⟩ := exists_published_of_allows done allowed
  have shelf := (alone_of_published repeatable done hx).2 e known
  have there := isThere_publishTo repeatable filled known (accepted x.1 e known)
  intro a ha
  have files : s'.registry.filesAt e = ((p.publishTo set x.1).run s).2.registry.filesAt e :=
    congrArg MemoryRegistry.Shelf.files shelf
  rw [← MemoryRegistry.mem_filesAt_iff, files, MemoryRegistry.mem_filesAt_iff]
  exact there a ha

/-- A run repeats an earlier one when it builds the same set with the same decision, and finds its files on all channels that are
open. -/
theorem repeats_of_there (repeatable : p.IsRepeatable tokens) {id : RunId} {t : Trigger} {s s₂ s' : Rehearsal} {context : RunContext}
    {version : Version} {set : ArtifactSet} {published : List (Channel × Outcome × UInt64)} {progress : Progress}
    (built : p.Built t s context version set s₂) (verified : p.verdictOn set s₂ = .pass) (accepted : p.IsAccepted s.registry)
    (there : ∀ c e, (p.decisionOn context set s₂).allows c = true → p.publisher.endpoints.get c = some e →
      IsThere set e s.registry)
    (h : p.Ends id t s published progress s') : Repeats version (p.decisionOn context set s₂) progress.report s s' := by
  have still := registry_of_built repeatable.reproducible built
  have filled : set.artifacts ≠ [] := ((Verifier.verify_eq_pass_iff _ _ _).mp verified .contents).inhabited
  obtain ⟨done, concluded, resolved⟩ := concluded_of_ends built h
  rw [← still] at accepted there
  obtain ⟨skipped, files⟩ := skips_of_published repeatable filled accepted there done
  refine ⟨(succeeded_concluded_iff concluded).mpr ⟨verified, fun x hx => ?_⟩, resolved, concluded.decision, fun c allowed => ?_,
    fun e => ?_⟩
  · rw [skipped x hx]
    rfl
  · obtain ⟨⟨_, outcome, durationMs⟩, hx, rfl⟩ := exists_published_of_allows done allowed
    obtain ⟨classify, resolve, build, verify, laid⟩ := concluded.laid
    have became := laid.became _ (List.mem_append_right _ (List.mem_map_of_mem hx))
    obtain rfl : outcome = .skippedExisting := skipped _ hx
    exact became
  · rw [files, still]

/-- A run that succeeded can be repeated after any other runs, as often as one likes. -/
theorem reruns_safe (repeatable : p.IsRepeatable tokens) {s s₁ : Rehearsal} (accepted : p.IsAccepted s.registry) {id : RunId}
    {t : Trigger} {published : List (Channel × Outcome × UInt64)} {progress : Progress}
    (first : p.Ends id t s published progress s₁) (well : progress.report.succeeded = true) :
    ∃ version decision, progress.report.version = some version ∧ progress.report.decision = some decision ∧
      ∀ s₂, p.Runs s₁ s₂ → ∀ id',
        (∃ published', p.Ends id' t s₂ published' (p.run id' t s₂).1 (p.run id' t s₂).2) ∧
          ∀ published' progress' s₃, p.Ends id' t s₂ published' progress' s₃ →
            Repeats version decision progress'.report s₂ s₃ := by
  have reproducible := repeatable.reproducible
  obtain ⟨context, version, set, sb, built, verified, -, -⟩ := (succeeded_iff_wentWell first).mp well
  obtain ⟨done, concluded, resolved⟩ := concluded_of_ends built first
  have filled : set.artifacts ≠ [] := ((Verifier.verify_eq_pass_iff _ _ _).mp verified .contents).inhabited
  have acceptedAtBuild : p.IsAccepted sb.registry := registry_of_built reproducible built ▸ accepted
  refine ⟨version, p.decisionOn context set sb, resolved, concluded.decision, fun s₂ later id' => ⟨ends_run p id' t s₂, ?_⟩⟩
  intro published' progress' s₃ again
  have alike : p.PreparesAlike p t s s₂ := ⟨rfl, reproducible.source s s₂, fun _ version _ _ => reproducible.builder version _ _⟩
  obtain ⟨sb', built', verdict⟩ := built.alike alike
  have grown := grows_of_runs repeatable.memory reproducible later
  rw [alike.decisionOn_eq verdict context]
  refine repeats_of_there repeatable built' (verdict ▸ verified) ?_ ?_ again
  · exact accepted_of_runs repeatable.memory reproducible (.more first later) accepted
  · intro c e allowed known a ha
    rw [← alike.decisionOn_eq verdict context] at allowed
    have left := isThere_of_published repeatable filled acceptedAtBuild done allowed known a ha
    exact List.contains_iff_mem.mpr (grown.files.subset (List.contains_iff_mem.mp left))

/-- A run of such a pipeline succeeds when its set passes verification and no endpoint refuses it. -/
theorem succeeded_of_verified (repeatable : p.IsRepeatable tokens) {id : RunId} {t : Trigger} {s s₂ s' : Rehearsal}
    {context : RunContext} {version : Version} {set : ArtifactSet} {published : List (Channel × Outcome × UInt64)}
    {progress : Progress} (built : p.Built t s context version set s₂) (verified : p.verdictOn set s₂ = .pass)
    (accepted : p.IsAccepted s.registry) (h : p.Ends id t s published progress s') : progress.report.succeeded = true := by
  obtain ⟨done, concluded, -⟩ := concluded_of_ends built h
  have filled : set.artifacts ≠ [] := ((Verifier.verify_eq_pass_iff _ _ _).mp verified .contents).inhabited
  refine (succeeded_concluded_iff concluded).mpr ⟨verified, fun x hx => ?_⟩
  obtain ⟨e, known⟩ := repeatable.endpoint x.1
  have accepting := accepted x.1 e known
  rw [← registry_of_built repeatable.reproducible built] at accepting
  rw [(alone_of_published repeatable done hx).1, (run_publishTo_of_accepting repeatable filled known accepting).1]
  split <;> rfl

end Pipeline

namespace Widget

/-- The pipeline of the widget can be run again and again. -/
theorem isRepeatable : pipeline.IsRepeatable ⟨some "first", some "second"⟩ where
  memory := ⟨rfl, rfl⟩
  endpoint c := by cases c <;> exact ⟨_, rfl⟩
  distinct := by
    intro e staging production
    have same : "https://test.widget.example" = "https://widget.example" := Option.some.inj (staging.trans production.symm)
    exact absurd same (by decide)
  token c := by cases c <;> exact ⟨_, rfl⟩
  idempotent c := by cases c <;> rfl
  reproducible := ⟨fun _ _ => rfl, fun _ _ _ => ⟨rfl, fun _ _ _ _ => rfl⟩, fun _ => rfl, fun _ _ => rfl⟩

/-- The release of the widget can be repeated. -/
theorem reruns_safe_release :
    let first := pipeline.run runId release {}
    let again := pipeline.run runId release first.2
    first.1.report.succeeded = true ∧ Pipeline.Repeats version .stagingAndProduction again.1.report first.2 again.2 := by
  intro first again
  have accepted : pipeline.IsAccepted ({} : Rehearsal).registry := fun _ _ _ => rfl
  obtain ⟨published, ends⟩ := Pipeline.ends_run pipeline runId release {}
  have succeeded : first.1.report.succeeded = true :=
    Pipeline.succeeded_of_verified isRepeatable built verify_set accepted ends
  obtain ⟨-, concluded, resolved⟩ := Pipeline.concluded_of_ends built ends
  have decided : pipeline.decisionOn context set { files } = .stagingAndProduction := by
    unfold Pipeline.decisionOn Pipeline.verdictOn
    rw [show Verifier.verify (pipeline.files { files }) pipeline.cwd set = .pass from verify_set]
    rfl
  obtain ⟨v, d, hv, hd, repeated⟩ := Pipeline.reruns_safe isRepeatable accepted ends succeeded
  obtain rfl := Option.some.inj (hv.symm.trans resolved)
  rw [concluded.decision, decided] at hd
  obtain rfl := Option.some.inj hd
  obtain ⟨⟨published', ends'⟩, every⟩ := repeated first.2 .nothing runId
  exact ⟨succeeded, every published' _ _ ends'⟩

end Widget

end ReleaseGate
