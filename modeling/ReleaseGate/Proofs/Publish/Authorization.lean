import ReleaseGate.Proofs.Publish.History

/-!
# Uploads are authorized

A credential opens the channel for which it was issued and no other, as long as it is valid. Four things speak against a call for a
publish, and `FirstFault` says which of them is told: the scope of the credential comes before its expiry, then the endpoint, and
then whether there is anything to publish. `uploads_authorized` says of every history that an attempt was recorded only by a call
against which nothing speaks, and that a call against which something does leaves no trace but its answer.
-/

namespace ReleaseGate

namespace PublishCall

variable (endpoints : PerChannel (Option String))

/-- Something speaks against a call. -/
def IsFaulty (call : PublishCall) : Prop :=
  call.credential.channel ≠ call.channel ∨ call.IsExpired ∨ endpoints.get call.channel = none ∨ call.set.artifacts = []

/-- What is told of a call against which something speaks: the first of the four faults, if none before it is there. -/
inductive FirstFault (call : PublishCall) : PublishError → Prop where
  | scope (other : call.credential.channel ≠ call.channel) :
      FirstFault call (.credentialScope call.channel call.credential.channel)
  | expired (scope : call.credential.channel = call.channel) (expired : call.IsExpired) :
      FirstFault call (.credentialExpired call.channel)
  | noEndpoint (scope : call.credential.channel = call.channel) (valid : ¬call.IsExpired)
      (unknown : endpoints.get call.channel = none) : FirstFault call (.noEndpoint call.channel)
  | empty (scope : call.credential.channel = call.channel) (valid : ¬call.IsExpired)
      (known : endpoints.get call.channel ≠ none) (empty : call.set.artifacts = []) : FirstFault call (.invalidArtifactSet .empty)

/-- Of the faults of a call one is the first. -/
theorem exists_firstFault {call : PublishCall} (h : call.IsFaulty endpoints) : ∃ e, call.FirstFault endpoints e := by
  by_cases scope : call.credential.channel = call.channel
  · by_cases expired : call.IsExpired
    · exact ⟨_, .expired scope expired⟩
    · by_cases unknown : endpoints.get call.channel = none
      · exact ⟨_, .noEndpoint scope expired unknown⟩
      · have empty : call.set.artifacts = [] := by
          rcases h with other | late | none | empty
          · exact absurd scope other
          · exact absurd late expired
          · exact absurd none unknown
          · exact empty
        exact ⟨_, .empty scope expired unknown empty⟩
  · exact ⟨_, .scope scope⟩

/-- A call is not admitted because of the first of its faults. -/
theorem admission_of_firstFault {call : PublishCall} {e : PublishError} (h : call.FirstFault endpoints e) :
    call.admission endpoints = .error e := by
  unfold admission Publisher.admission
  cases h with
  | scope other => rw [if_pos other]
  | expired scope expired => rw [if_neg (not_not_intro scope), if_pos (isExpiredAt_start_iff.mpr expired)]
  | noEndpoint scope valid unknown =>
    have known : (MemoryRegistry.publisher endpoints call.start).endpoints.get call.channel = none := unknown
    rw [if_neg (not_not_intro scope), if_neg (mt isExpiredAt_start_iff.mp valid), known]
  | empty scope valid known empty =>
    obtain ⟨endpoint, some⟩ := Option.ne_none_iff_exists'.mp known
    have known : (MemoryRegistry.publisher endpoints call.start).endpoints.get call.channel = .some endpoint := some
    have nothing : call.set.isEmpty = true := List.isEmpty_iff.mpr empty
    rw [if_neg (not_not_intro scope), if_neg (mt isExpiredAt_start_iff.mp valid), known]
    exact if_pos nothing

end PublishCall

namespace MemoryRegistry

variable (endpoints : PerChannel (Option String))

/-- An operation used credentials as it may: its attempts are those of a call against which nothing speaks, and a call against
which something does ends with the first of its faults and leaves the registry as it was. -/
structure Entry.IsAuthorized (entry : Entry) : Prop where
  accounted : ∀ a ∈ entry.recorded, ∃ call, entry.operation.call? = some call ∧ call.Accounts endpoints a
  refused : ∀ call, entry.operation.call? = some call → call.IsFaulty endpoints →
    ∃ e, call.FirstFault endpoints e ∧ entry.answer = entry.operation.answerOf (.error e) ∧ entry.recorded = [] ∧
      entry.after = entry.before

/-- What stands in a history is authorized. -/
theorem isAuthorized_of_mem_history {operations : List Operation} {r : MemoryRegistry} {entry : Entry}
    (h : entry ∈ history endpoints operations r) : entry.IsAuthorized endpoints := by
  have performed := perform_of_mem_history endpoints h
  refine ⟨?_, fun call known faulty => ?_⟩
  · obtain ⟨new, adds, each⟩ := (grows_perform endpoints entry.operation entry.before).attempts
    have recorded : entry.recorded = new := by
      rw [performed] at adds
      unfold Entry.recorded
      rw [adds, List.drop_left]
    rw [recorded]
    exact each
  · obtain ⟨e, first⟩ := call.exists_firstFault endpoints faulty
    have refused : call.run endpoints entry.before = (.error e, entry.before) := by
      rw [PublishCall.run_eq, PublishCall.admission_of_firstFault endpoints first]
    rw [perform_of_call endpoints known, refused] at performed
    have after : entry.after = entry.before := (congrArg Prod.snd performed).symm
    refine ⟨e, first, (congrArg Prod.fst performed).symm, ?_, after⟩
    unfold Entry.recorded
    rw [after, List.drop_length]

/-- In every history from every registry, the attempts that are recorded came with its operations, and each operation was
authorized. -/
theorem uploads_authorized (operations : List Operation) (r : MemoryRegistry) :
    (performAll endpoints operations r).attempts = r.attempts ++ (history endpoints operations r).flatMap Entry.recorded ∧
      ∀ entry ∈ history endpoints operations r, entry.IsAuthorized endpoints := by
  have recorded := attempts_performAll endpoints operations r
  exact ⟨recorded, fun entry h => isAuthorized_of_mem_history endpoints h⟩

end MemoryRegistry

end ReleaseGate
