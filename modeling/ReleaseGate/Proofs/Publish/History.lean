import ReleaseGate.Proofs.Publish.Uploads

/-!
# Histories of a registry

What happens to a registry in memory that a publisher works on: files are put there from outside, endpoints begin to fail, and
sets are published, each time with a credential of its own and at a time of its own. `history` keeps every operation with what it
answered and the registry before and after it. Whatever happens, a registry only grows, and every attempt that it records is
accounted for by the call that made it.
-/

namespace ReleaseGate

/-- A call for a publish: what it is given, and the time at which it starts. -/
structure PublishCall where
  channel : Channel
  set : ArtifactSet
  credential : Credential
  idempotent : Bool
  start : Timestamp

/-- What can happen to a registry. -/
inductive Operation where
  | seed (endpoint fileName : String)
  | fail (endpoint : String) (status : Http.Status)
  | publish (call : PublishCall)
  | tryPublish (call : PublishCall)

/-- What an operation answers. -/
inductive Answer where
  | nothing
  | outcome (outcome : Outcome)
  | result (result : Except PublishError Outcome)

namespace Operation

/-- The call that an operation is, if it is one. -/
def call? : Operation → Option PublishCall
  | publish call => some call
  | tryPublish call => some call
  | _ => none

/-- How an operation that is a call answers, given how its publish ended: one kind of call passes that on, and the other makes a
failed outcome of an error. -/
def answerOf : Operation → Except PublishError Outcome → Answer
  | publish _, .ok outcome => .outcome outcome
  | publish call, .error e => .outcome (.failed s!"publish_error: publish to {call.channel} failed: {e.message}")
  | tryPublish _, result => .result result
  | _, _ => .nothing

end Operation

/-- The publisher to the endpoints of the channels of a registry in memory, at some point in time. -/
def MemoryRegistry.publisher (endpoints : PerChannel (Option String)) (now : Timestamp) : Publisher MemoryRegistry :=
  { registry := MemoryRegistry.upload, endpoints, clock := fun _ => now }

namespace PublishCall

variable (endpoints : PerChannel (Option String))

/-- The credential of a call is no longer valid when the call starts. -/
def IsExpired (call : PublishCall) : Prop :=
  ∃ t, call.credential.expiresAt = some t ∧ t.isUpTo call.start = true

/-- How the publish of a call ends, and the registry after it. -/
def run (call : PublishCall) (r : MemoryRegistry) : Except PublishError Outcome × MemoryRegistry :=
  ((MemoryRegistry.publisher endpoints call.start).tryPublish call.channel call.set call.credential call.idempotent).run r

/-- The endpoint to which a call is admitted, or why it is not. -/
def admission (call : PublishCall) : Except PublishError String :=
  (MemoryRegistry.publisher endpoints call.start).admission call.start call.channel call.set call.credential

theorem isExpiredAt_start_iff {call : PublishCall} : call.credential.isExpiredAt call.start = true ↔ call.IsExpired := by
  unfold Credential.isExpiredAt IsExpired
  cases call.credential.expiresAt with
  | none => simp
  | some t => simp

/-- A call that is not admitted does nothing, and ends with what speaks against it; one that is admitted uploads its set. -/
theorem run_eq (call : PublishCall) (r : MemoryRegistry) :
    call.run endpoints r =
      match call.admission endpoints with
      | .error e => (.error e, r)
      | .ok endpoint =>
        (Publisher.uploadAll (fun artifact => MemoryRegistry.upload ⟨endpoint, call.set, artifact, call.credential⟩) call.channel
          call.idempotent false call.set.artifacts).run r :=
  Publisher.run_tryPublish (MemoryRegistry.publisher endpoints call.start) call.channel call.set call.credential call.idempotent r

/-- An attempt is one that a call may make: it goes to the endpoint of the channel of the call, with a credential of this channel
that was valid when the call started, and for a file of the set. -/
structure Accounts (call : PublishCall) (a : Attempt) : Prop where
  endpoint : endpoints.get call.channel = some a.endpoint
  scope : call.credential.channel = call.channel
  valid : ¬call.IsExpired
  used : a.channel = call.credential.channel
  file : ∃ artifact ∈ call.set.artifacts, artifact.fileName = a.fileName

/-- What each upload of a call may do, if the call is admitted, the call may do. -/
theorem run_of_uploads {Q : MemoryRegistry → MemoryRegistry → Prop} (refl : ∀ r, Q r r) (trans : ∀ {r s t}, Q r s → Q s t → Q r t)
    {call : PublishCall}
    (each : ∀ endpoint, call.admission endpoints = .ok endpoint → ∀ a ∈ call.set.artifacts,
      (MemoryRegistry.upload ⟨endpoint, call.set, a, call.credential⟩).Moves Q) (r : MemoryRegistry) :
    Q r (call.run endpoints r).2 := by
  rw [run_eq]
  cases admitted : call.admission endpoints with
  | error e => exact refl r
  | ok endpoint =>
    have uploads := Publisher.moves_uploadAll (each endpoint admitted) call.channel call.idempotent false
    exact uploads.run refl trans r

/-- A call is admitted to the endpoint of its channel only, with a credential of this channel that is valid. -/
theorem of_admitted {call : PublishCall} {endpoint : String} (h : call.admission endpoints = .ok endpoint) :
    call.credential.channel = call.channel ∧ ¬call.IsExpired ∧ endpoints.get call.channel = some endpoint := by
  obtain ⟨scope, valid, known, -⟩ := (Publisher.admission_eq_ok_iff _ _ _ _ _ _).mp h
  refine ⟨scope, ?_, known⟩
  rw [← isExpiredAt_start_iff, valid]
  exact Bool.false_ne_true

/-- A call only adds to a registry, and the attempts that it adds are its own. -/
theorem grows_run (call : PublishCall) (r : MemoryRegistry) :
    MemoryRegistry.Grows (call.Accounts endpoints) r (call.run endpoints r).2 := by
  refine run_of_uploads endpoints .refl .trans (fun endpoint admitted a ha => ?_) r
  obtain ⟨scope, valid, known⟩ := of_admitted endpoints admitted
  exact MemoryRegistry.moves_grows_upload ⟨known, scope, valid, rfl, a, ha, rfl⟩

end PublishCall

/-- The outcome of a publish that ended with an error, with its label and the channel in front of it. -/
theorem PublishError.toOutcome_eq (e : PublishError) (c : Channel) :
    e.toOutcome c = .failed s!"publish_error: publish to {c} failed: {e.message}" := by
  have labelled : (e.toFailure c).labelled =
      "publish_error" ++ ": " ++ ("publish to " ++ toString c ++ " failed: " ++ e.message) := rfl
  rw [toOutcome, labelled]
  show _ = Outcome.failed ("publish_error: publish to " ++ toString c ++ " failed: " ++ e.message)
  simp [← String.append_assoc]

namespace MemoryRegistry

variable (endpoints : PerChannel (Option String))

/-- What an operation answers, and the registry after it. -/
def perform : Operation → MemoryRegistry → Answer × MemoryRegistry
  | .seed endpoint fileName, r => (.nothing, r.seed endpoint fileName)
  | .fail endpoint status, r => (.nothing, r.fail endpoint status)
  | .publish call, r =>
    let (outcome, r') :=
      ((publisher endpoints call.start).publish call.channel call.set call.credential call.idempotent).run r
    (.outcome outcome, r')
  | .tryPublish call, r =>
    let (result, r') :=
      ((publisher endpoints call.start).tryPublish call.channel call.set call.credential call.idempotent).run r
    (.result result, r')

/-- The registry after operations. -/
def performAll (operations : List Operation) (r : MemoryRegistry) : MemoryRegistry :=
  operations.foldl (fun r operation => (perform endpoints operation r).2) r

/-- An operation of a history: the registry before it, what it answered, and the registry after it. -/
structure Entry where
  operation : Operation
  before : MemoryRegistry
  answer : Answer
  after : MemoryRegistry

/-- The attempts that came with an operation. -/
def Entry.recorded (entry : Entry) : List Attempt := entry.after.attempts.drop entry.before.attempts.length

/-- Operations one after another, from a registry on. -/
def history : List Operation → MemoryRegistry → List Entry
  | [], _ => []
  | operation :: rest, r =>
    let (answer, after) := perform endpoints operation r
    ⟨operation, r, answer, after⟩ :: history rest after

/-- Both kinds of calls do to a registry what their publish does, and answer, each in its own form, how it ended. -/
theorem perform_of_call {operation : Operation} {call : PublishCall} (h : operation.call? = some call) (r : MemoryRegistry) :
    perform endpoints operation r = (operation.answerOf (call.run endpoints r).1, (call.run endpoints r).2) := by
  cases operation with
  | seed endpoint fileName => cases h
  | fail endpoint status => cases h
  | publish call =>
    obtain rfl := Option.some.inj h
    have published := Publisher.run_publish (publisher endpoints call.start) call.channel call.set call.credential
      call.idempotent r
    unfold perform
    simp only [published]
    show (Answer.outcome (Publisher.outcomeOf call.channel (call.run endpoints r).1), (call.run endpoints r).2) = _
    cases (call.run endpoints r).1 with
    | ok outcome => rfl
    | error e => rw [Publisher.outcomeOf, PublishError.toOutcome_eq, Operation.answerOf]
  | tryPublish call =>
    obtain rfl := Option.some.inj h
    rfl

/-- An operation only adds to a registry, and the attempts that it adds are those of the call that it is. -/
theorem grows_perform (operation : Operation) (r : MemoryRegistry) :
    Grows (fun a => ∃ call, operation.call? = some call ∧ call.Accounts endpoints a) r (perform endpoints operation r).2 := by
  cases known : operation.call? with
  | some call =>
    rw [perform_of_call endpoints known]
    exact (call.grows_run endpoints r).mono fun a ha => ⟨call, rfl, ha⟩
  | none =>
    cases operation with
    | seed endpoint fileName => exact grows_seed r endpoint fileName
    | fail endpoint status => exact ⟨List.prefix_rfl, id, [], (List.append_nil _).symm, List.forall_mem_nil _⟩
    | publish call => cases known
    | tryPublish call => cases known

/-- All operations together only add to a registry. -/
theorem grows_performAll (operations : List Operation) (r : MemoryRegistry) :
    Grows (fun _ => True) r (performAll endpoints operations r) := by
  induction operations generalizing r with
  | nil => exact .refl r
  | cons operation rest ih =>
    have first : Grows (fun _ => True) r (perform endpoints operation r).2 :=
      (grows_perform endpoints operation r).mono fun _ _ => trivial
    exact first.trans (ih _)

/-- What stands in a history is what its operations do. -/
theorem perform_of_mem_history {operations : List Operation} {r : MemoryRegistry} {entry : Entry}
    (h : entry ∈ history endpoints operations r) :
    perform endpoints entry.operation entry.before = (entry.answer, entry.after) := by
  induction operations generalizing r with
  | nil => cases h
  | cons operation rest ih =>
    rcases List.mem_cons.mp h with rfl | later
    · rfl
    · exact ih later

/-- The attempts that a registry records are those that came with the operations, in their order. -/
theorem attempts_performAll (operations : List Operation) (r : MemoryRegistry) :
    (performAll endpoints operations r).attempts = r.attempts ++ (history endpoints operations r).flatMap Entry.recorded := by
  induction operations generalizing r with
  | nil => exact (List.append_nil _).symm
  | cons operation rest ih =>
    obtain ⟨new, adds, -⟩ := (grows_perform endpoints operation r).attempts
    have recorded : (perform endpoints operation r).2.attempts.drop r.attempts.length = new := by rw [adds, List.drop_left]
    generalize later : (history endpoints rest (perform endpoints operation r).2).flatMap Entry.recorded = more at ih
    have all : (history endpoints (operation :: rest) r).flatMap Entry.recorded = new ++ more := by
      rw [history, List.flatMap_cons, later]
      exact congrArg (· ++ more) recorded
    calc (performAll endpoints (operation :: rest) r).attempts
        = (performAll endpoints rest (perform endpoints operation r).2).attempts := rfl
      _ = (perform endpoints operation r).2.attempts ++ more := by rw [ih, later]
      _ = r.attempts ++ new ++ more := by rw [adds]
      _ = r.attempts ++ (history endpoints (operation :: rest) r).flatMap Entry.recorded := by rw [all, List.append_assoc]

end MemoryRegistry

end ReleaseGate
