import ReleaseGate.Publish.Publisher

/-!
# Channels in memory

A registry that keeps the names of the files at each endpoint, can be told to refuse everything at an endpoint, and records every
attempt to upload; and an issuer of fixed tokens that records for which channels it was asked. Runs are rehearsed on them.
-/

namespace ReleaseGate

/-- An attempt to upload a file. -/
structure Attempt where
  endpoint : String
  fileName : String
  /-- The channel of the credential that was used. -/
  channel : Channel
  deriving DecidableEq, Repr

/-- What a registry in memory holds. -/
structure MemoryRegistry where
  /-- The files, each as its endpoint and its name; none stands here twice. -/
  files : List (String × String) := []
  /-- The endpoints that refuse everything, with the status that they answer. -/
  failing : List (String × Http.Status) := []
  /-- The attempts, the first of them first. -/
  attempts : List Attempt := []
  deriving DecidableEq, Repr

namespace MemoryRegistry

/-- Whether a file is at an endpoint. -/
def contains (r : MemoryRegistry) (endpoint fileName : String) : Bool := r.files.contains (endpoint, fileName)

/-- The number of files at an endpoint. -/
def fileCount (r : MemoryRegistry) (endpoint : String) : Nat := (r.files.filter (·.1 == endpoint)).length

/-- The registry with a file at an endpoint. -/
def seed (r : MemoryRegistry) (endpoint fileName : String) : MemoryRegistry :=
  if r.contains endpoint fileName then r else { r with files := r.files ++ [(endpoint, fileName)] }

/-- The registry in which an endpoint refuses everything with a status. -/
def fail (r : MemoryRegistry) (endpoint : String) (status : Http.Status) : MemoryRegistry :=
  { r with failing := (endpoint, status) :: r.failing.filter (·.1 != endpoint) }

/-- The registry with one more attempt recorded. -/
def record (r : MemoryRegistry) (a : Attempt) : MemoryRegistry := { r with attempts := r.attempts ++ [a] }

/-- The attempt that an upload is. -/
def attemptOf (u : Upload) : Attempt := ⟨u.endpoint, u.artifact.fileName, u.credential.channel⟩

/-- The reason that a failing endpoint gives. -/
def failureBody : String := "injected failure"

/-- Uploads in three steps: the attempt is recorded, the endpoint is asked whether it fails, and the file is put there. -/
def upload : Registry MemoryRegistry := fun u => do
  Stepwise.change (·.record (attemptOf u))
  match ← Stepwise.observe fun r => r.failing.lookup u.endpoint with
  | some status => pure (.error (.uploadRejected u.credential.channel u.artifact.fileName status failureBody))
  | none =>
    Stepwise.atomic fun r =>
      if r.contains u.endpoint u.artifact.fileName then (.ok .alreadyExists, r)
      else (.ok .created, r.seed u.endpoint u.artifact.fileName)

/-- A file that was put to an endpoint is there, and so is every file that was there before. -/
@[simp] theorem contains_seed (r : MemoryRegistry) (endpoint fileName e f : String) :
    (r.seed endpoint fileName).contains e f = ((e, f) == (endpoint, fileName) || r.contains e f) := by
  by_cases h : r.contains endpoint fileName <;> grind [seed, contains]

/-- An endpoint refuses with the status that it was told last. -/
@[simp] theorem lookup_failing_fail (r : MemoryRegistry) (endpoint e : String) (status : Http.Status) :
    (r.fail endpoint status).failing.lookup e = if e = endpoint then some status else r.failing.lookup e := by
  simp only [fail]
  induction r.failing with
  | nil => grind
  | cons head rest ih => grind

end MemoryRegistry

/-- An issuer of a fixed token for each channel that has one. Its state is the channels it was asked for, in order. -/
structure TokenIssuer where
  tokens : PerChannel (Option String)

namespace TokenIssuer

/-- The credential for a channel. -/
def credential (i : TokenIssuer) (c : Channel) : Except PublishError Credential :=
  match i.tokens.get c with
  | some token => .ok { channel := c, secret := token }
  | none => .error (.credentialUnavailable c .noToken)

/-- The issuer at work. -/
def issuer (i : TokenIssuer) : Issuer (List Channel) := fun c => do
  Stepwise.change (· ++ [c])
  pure (i.credential c)

end TokenIssuer

end ReleaseGate
