import ReleaseGate.Proofs.Publish.History

/-!
# Publishes converge

A publish to which files that are there already are no failure can be made again and again: whatever earlier publishes left at the
endpoint, complete or not, it puts there what was missing and nothing else. `Arrived` says so of one publish, and what its outcome
then is. `publishes_converge` says it after every history: what the registry held is still there, a publish that has all it takes
arrives, and when it is repeated nothing is left to do.
-/

namespace ReleaseGate

/-- A call has all that it takes to go to an endpoint: files that are there already are no failure, the credential is of the channel
and valid, the endpoint is the one of the channel, and there is something to publish. -/
structure PublishCall.IsReady (endpoints : PerChannel (Option String)) (call : PublishCall) (endpoint : String) : Prop where
  idempotent : call.idempotent = true
  scope : call.credential.channel = call.channel
  valid : ¬call.IsExpired
  known : endpoints.get call.channel = some endpoint
  filled : call.set.artifacts ≠ []

namespace MemoryRegistry

/-- The files of a set arrived at an endpoint: those that were missing were put behind those that were there, each of them once, no
other endpoint was touched, and the outcome tells whether any was missing. -/
structure Arrived (endpoint : String) (set : ArtifactSet) (r r' : MemoryRegistry) (outcome : Outcome) : Prop where
  added : ∃ new, r'.filesAt endpoint = r.filesAt endpoint ++ new ∧ new.Nodup ∧
    ∀ f, f ∈ new ↔ f ∉ r.filesAt endpoint ∧ ∃ a ∈ set.artifacts, a.fileName = f
  others : ∀ e, e ≠ endpoint → r'.shelf e = r.shelf e
  skipped : outcome = .skippedExisting ↔ ∀ a ∈ set.artifacts, a.fileName ∈ r.filesAt endpoint
  succeeded : outcome = .succeeded ↔ ∃ a ∈ set.artifacts, a.fileName ∉ r.filesAt endpoint

/-- Where the files of a set arrived, all of them are. -/
theorem Arrived.present {endpoint : String} {set : ArtifactSet} {r r' : MemoryRegistry} {outcome : Outcome}
    (h : Arrived endpoint set r r' outcome) {a : Artifact} (ha : a ∈ set.artifacts) :
    r'.contains endpoint a.fileName = true := by
  obtain ⟨new, files, -, each⟩ := h.added
  rw [← mem_filesAt_iff, files]
  by_cases there : a.fileName ∈ r.filesAt endpoint
  · exact List.mem_append_left new there
  · exact List.mem_append_right _ ((each a.fileName).mpr ⟨there, a, ha, rfl⟩)

/-- Files that are put to an endpoint one after another come behind those that are there, each of them once and only if it was
missing. -/
theorem filesAt_seedAll (r : MemoryRegistry) (endpoint : String) (names : List String) :
    ∃ new, (r.seedAll endpoint names).filesAt endpoint = r.filesAt endpoint ++ new ∧ new.Nodup ∧
      ∀ f, f ∈ new ↔ f ∉ r.filesAt endpoint ∧ f ∈ names := by
  -- a name that is missing is the first of those that come, and is there for the names behind it
  induction names generalizing r with
  | nil => exact ⟨[], (List.append_nil _).symm, List.nodup_nil, by simp⟩
  | cons name rest ih =>
    obtain ⟨new, files, nodup, each⟩ := ih (r.seed endpoint name)
    have seeded := congrArg Shelf.files (shelf_seed r endpoint name endpoint)
    by_cases there : name ∈ r.filesAt endpoint
    · have same : (r.seed endpoint name).filesAt endpoint = r.filesAt endpoint := by
        rw [if_neg fun missing => missing.2 there] at seeded
        exact seeded
      rw [same] at files each
      refine ⟨new, files, nodup, fun f => ?_⟩
      rw [each, List.mem_cons]
      grind
    · have more : (r.seed endpoint name).filesAt endpoint = r.filesAt endpoint ++ [name] := by
        rw [if_pos ⟨rfl, there⟩] at seeded
        exact seeded
      rw [more] at files each
      refine ⟨name :: new, ?_, ?_, fun f => ?_⟩
      · rw [seedAll_cons, files, List.append_assoc, List.singleton_append]
      · refine List.nodup_cons.mpr ⟨fun h => ?_, nodup⟩
        exact ((each name).mp h).1 (List.mem_append_right _ List.mem_cons_self)
      · rw [List.mem_cons, each, List.mem_append, List.mem_singleton, List.mem_cons]
        grind

theorem any_missing_iff {r : MemoryRegistry} {endpoint : String} {artifacts : List Artifact} :
    (artifacts.any fun a => !r.contains endpoint a.fileName) = true ↔ ∃ a ∈ artifacts, a.fileName ∉ r.filesAt endpoint := by
  rw [List.any_eq_true]
  refine exists_congr fun a => and_congr_right fun _ => ?_
  rw [mem_filesAt_iff, Bool.not_eq_true', Bool.not_eq_true]

theorem filesAt_congr {r t : MemoryRegistry} (h : r.files = t.files) (endpoint : String) :
    r.filesAt endpoint = t.filesAt endpoint := by
  unfold filesAt
  rw [h]

end MemoryRegistry

namespace PublishCall

variable {endpoints : PerChannel (Option String)} {call : PublishCall} {endpoint : String} {r : MemoryRegistry}

theorem IsReady.admission (ready : call.IsReady endpoints endpoint) : call.admission endpoints = .ok endpoint := by
  refine (Publisher.admission_eq_ok_iff _ _ _ _ _ _).mpr ⟨ready.scope, ?_, ready.known, ?_⟩
  · rw [← Bool.not_eq_true, isExpiredAt_start_iff]
    exact ready.valid
  · rw [← Bool.not_eq_true]
    exact mt List.isEmpty_iff.mp ready.filled

/-- How a call ends that has all it takes, at an endpoint that refuses nothing, and the files after it. -/
theorem IsReady.run (ready : call.IsReady endpoints endpoint) (accepting : r.failing.lookup endpoint = none) :
    (call.run endpoints r).1 =
        .ok (if call.set.artifacts.any fun a => !r.contains endpoint a.fileName then .succeeded else .skippedExisting) ∧
      (call.run endpoints r).2.files = (r.seedAll endpoint (call.set.artifacts.map (·.fileName))).files := by
  rw [run_eq, ready.admission, ready.idempotent]
  have uploaded := MemoryRegistry.run_uploadAll_of_accepting endpoint call.set call.credential call.channel call.set.artifacts
    false accepting
  rw [Bool.false_or] at uploaded
  exact uploaded

/-- A call leaves the shelves of all endpoints as they are that are not the one of its channel. -/
theorem shelf_run {e : String} (other : endpoints.get call.channel ≠ some e) : (call.run endpoints r).2.shelf e = r.shelf e := by
  refine run_of_uploads (Q := fun r r' => r'.shelf e = r.shelf e) endpoints (fun _ => rfl) (fun h h' => h'.trans h) ?_ r
  intro endpoint admitted a _
  obtain ⟨-, -, known⟩ := of_admitted endpoints admitted
  refine MemoryRegistry.keeps_shelf_upload fun same => ?_
  exact other (known.trans (congrArg some same))

/-- A call does not change which endpoints fail. -/
theorem failing_run : (call.run endpoints r).2.failing = r.failing := by
  refine run_of_uploads (Q := fun r r' => r'.failing = r.failing) endpoints (fun _ => rfl) (fun h h' => h'.trans h) ?_ r
  intro endpoint _ a _
  exact MemoryRegistry.keeps_failing_upload _

/-- A call that has all it takes arrives where nothing is refused. -/
theorem IsReady.arrives (ready : call.IsReady endpoints endpoint) (accepting : r.failing.lookup endpoint = none) :
    ∃ outcome, (call.run endpoints r).1 = .ok outcome ∧
      MemoryRegistry.Arrived endpoint call.set r (call.run endpoints r).2 outcome := by
  obtain ⟨ended, files⟩ := ready.run accepting
  have added := r.filesAt_seedAll endpoint (call.set.artifacts.map (·.fileName))
  rw [← MemoryRegistry.filesAt_congr files endpoint] at added
  simp only [List.mem_map] at added
  have others : ∀ e, e ≠ endpoint → (call.run endpoints r).2.shelf e = r.shelf e := by
    intro e other
    refine shelf_run fun known => other ?_
    exact Option.some.inj (known.symm.trans ready.known)
  refine ⟨_, ended, ?_⟩
  by_cases missing : (call.set.artifacts.any fun a => !r.contains endpoint a.fileName) = true
  · obtain ⟨a, ha, absent⟩ := MemoryRegistry.any_missing_iff.mp missing
    rw [if_pos missing]
    exact ⟨added, others, ⟨nofun, fun all => absurd (all a ha) absent⟩, ⟨fun _ => ⟨a, ha, absent⟩, fun _ => rfl⟩⟩
  · have all : ∀ a ∈ call.set.artifacts, a.fileName ∈ r.filesAt endpoint := fun a ha =>
      Decidable.byContradiction fun absent => missing (MemoryRegistry.any_missing_iff.mpr ⟨a, ha, absent⟩)
    rw [if_neg missing]
    exact ⟨added, others, ⟨fun _ => all, fun _ => rfl⟩, ⟨nofun, fun ⟨a, ha, absent⟩ => absurd (all a ha) absent⟩⟩

/-- A call that has all it takes finds nothing left to do where its files are already. -/
theorem IsReady.skips (ready : call.IsReady endpoints endpoint) (accepting : r.failing.lookup endpoint = none)
    (present : ∀ a ∈ call.set.artifacts, r.contains endpoint a.fileName = true) :
    (call.run endpoints r).1 = .ok .skippedExisting ∧ (call.run endpoints r).2.files = r.files := by
  obtain ⟨ended, files⟩ := ready.run accepting
  have nothing : ¬(call.set.artifacts.any fun a => !r.contains endpoint a.fileName) = true := by
    intro missing
    obtain ⟨a, ha, absent⟩ := MemoryRegistry.any_missing_iff.mp missing
    exact absent (MemoryRegistry.mem_filesAt_iff.mpr (present a ha))
  have each : ∀ f ∈ call.set.artifacts.map (·.fileName), r.contains endpoint f = true := by
    intro f hf
    obtain ⟨a, ha, rfl⟩ := List.mem_map.mp hf
    exact present a ha
  rw [if_neg nothing] at ended
  rw [MemoryRegistry.seedAll_eq_self each] at files
  exact ⟨ended, files⟩

end PublishCall

namespace MemoryRegistry

/-- After every history, of operations of any kind and whatever became of them, all files that a registry held are still there, and
none came to stand there twice. A call that has all it takes, to an endpoint that refuses nothing, arrives there; and a call that
brings the same set there again has nothing to do. -/
theorem publishes_converge (endpoints : PerChannel (Option String)) (operations : List Operation) (r₀ : MemoryRegistry) :
    let r := performAll endpoints operations r₀
    r₀.files <+: r.files ∧ (r₀.files.Nodup → r.files.Nodup) ∧
      ∀ (operation : Operation) (call : PublishCall) (endpoint : String), operation.call? = some call →
        call.IsReady endpoints endpoint → r.failing.lookup endpoint = none →
        ∃ outcome r', perform endpoints operation r = (operation.answerOf (.ok outcome), r') ∧
          Arrived endpoint call.set r r' outcome ∧
          ∀ (repeated : Operation) (again : PublishCall), repeated.call? = some again → again.set = call.set →
            again.IsReady endpoints endpoint →
            ∃ r'', perform endpoints repeated r' = (repeated.answerOf (.ok .skippedExisting), r'') ∧ r''.files = r'.files := by
  intro r
  have grown := grows_performAll endpoints operations r₀
  refine ⟨grown.files, grown.nodup, fun operation call endpoint known ready accepting => ?_⟩
  obtain ⟨outcome, ended, arrived⟩ := ready.arrives accepting
  refine ⟨outcome, (call.run endpoints r).2, ?_, arrived, fun repeated again knownAgain same readyAgain => ?_⟩
  · rw [perform_of_call endpoints known, ended]
  · have still : (call.run endpoints r).2.failing.lookup endpoint = none := by
      rw [PublishCall.failing_run]
      exact accepting
    obtain ⟨skipped, files⟩ := readyAgain.skips still fun a ha => arrived.present (same ▸ ha)
    exact ⟨_, by rw [perform_of_call endpoints knownAgain, skipped], files⟩

end MemoryRegistry

end ReleaseGate
