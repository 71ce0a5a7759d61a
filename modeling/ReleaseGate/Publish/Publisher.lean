import ReleaseGate.Publish.Registry

/-!
# Publishing an artifact set

`tryPublish` uploads every artifact of a set to the endpoint of one channel, with a credential that must be of that channel and
still valid. A publish in which every file was there already is skipped rather than done; when re-runs are not wanted, a file
that is there already fails the publish. `publish` makes an outcome of every failure.
-/

namespace ReleaseGate

/-- What publishes: a registry, the endpoint of each channel, and a clock. -/
structure Publisher (σ : Type) where
  registry : Registry σ
  endpoints : PerChannel (Option String)
  clock : σ → Timestamp

namespace Publisher

variable {σ : Type}

/-- The endpoint to which a set may go with a credential at some point in time. The scope of the credential is looked at first,
then its expiry, the endpoint, and whether there is anything to publish. -/
def admission (p : Publisher σ) (now : Timestamp) (c : Channel) (s : ArtifactSet) (credential : Credential) :
    Except PublishError String :=
  if credential.channel ≠ c then .error (.credentialScope c credential.channel)
  else if credential.isExpiredAt now then .error (.credentialExpired c)
  else
    match p.endpoints.get c with
    | none => .error (.noEndpoint c)
    | some endpoint => if s.isEmpty then .error (.invalidArtifactSet .empty) else .ok endpoint

/-- A set is admitted to an endpoint when nothing that is looked at speaks against it. -/
theorem admission_eq_ok_iff (p : Publisher σ) (now : Timestamp) (c : Channel) (s : ArtifactSet) (credential : Credential)
    (endpoint : String) :
    p.admission now c s credential = .ok endpoint ↔
      credential.channel = c ∧ credential.isExpiredAt now = false ∧ p.endpoints.get c = some endpoint ∧ s.isEmpty = false := by
  unfold admission
  by_cases scope : credential.channel = c
  · by_cases expired : credential.isExpiredAt now = true
    · simp [scope, expired]
    · cases p.endpoints.get c with
      | none => simp [scope, expired]
      | some e => by_cases empty : s.isEmpty = true <;> simp [scope, expired, empty]
  · simp [scope]

/-- Uploads artifacts one after another; `created` says whether one before them was made. -/
def uploadAll (upload : Artifact → Stepwise σ (Except PublishError UploadResponse)) (c : Channel) (idempotent : Bool) :
    Bool → List Artifact → Stepwise σ (Except PublishError Outcome)
  | created, [] => pure (.ok (if created then .succeeded else .skippedExisting))
  | created, a :: rest => do
    match ← upload a with
    | .error e => pure (.error e)
    | .ok .created => uploadAll upload c idempotent true rest
    | .ok .alreadyExists =>
      if idempotent then uploadAll upload c idempotent created rest
      else pure (.ok (.failed s!"{a.fileName} is already present on {c}"))

/-- Publishes a set to a channel. -/
def tryPublish (p : Publisher σ) (c : Channel) (s : ArtifactSet) (credential : Credential) (idempotent : Bool) :
    Stepwise σ (Except PublishError Outcome) := do
  let now ← Stepwise.observe p.clock
  match p.admission now c s credential with
  | .error e => pure (.error e)
  | .ok endpoint =>
    uploadAll (fun artifact => p.registry { endpoint, set := s, artifact, credential }) c idempotent false s.artifacts

/-- The outcome of a publish to a channel. -/
def outcomeOf (c : Channel) : Except PublishError Outcome → Outcome
  | .ok outcome => outcome
  | .error e => e.toOutcome c

/-- Publishes a set to a channel; every failure becomes its outcome. -/
def publish (p : Publisher σ) (c : Channel) (s : ArtifactSet) (credential : Credential) (idempotent : Bool) :
    Stepwise σ Outcome := do
  let result ← p.tryPublish c s credential idempotent
  pure (outcomeOf c result)

end Publisher

end ReleaseGate
