import ReleaseGate.Artifact
import ReleaseGate.Publish.Credential

/-!
# Registries

A registry takes one file at a time. It answers that it made the file or that the same file was there already; everything else
is a failure. Registries differ in what an upload does, so a publisher is given one as a function.
-/

namespace ReleaseGate

/-- The answers of a registry to an upload that did not fail. -/
inductive UploadResponse where
  | created
  | alreadyExists
  deriving DecidableEq, Repr

namespace UploadResponse

/-- The answers. -/
def all : List UploadResponse := [.created, .alreadyExists]

/-- The name of an answer. -/
def name : UploadResponse → String
  | .created => "created"
  | .alreadyExists => "already_exists"

/-- The answer of a name. -/
def ofName? (s : String) : Option UploadResponse := all.find? (·.name == s)

@[simp] theorem ofName?_name (r : UploadResponse) : ofName? r.name = some r := by cases r <;> decide

end UploadResponse

/-- One artifact of a set, on its way to an endpoint. -/
structure Upload where
  endpoint : String
  set : ArtifactSet
  artifact : Artifact
  credential : Credential

/-- What an upload does, step by step. -/
abbrev Registry (σ : Type) := Upload → Stepwise σ (Except PublishError UploadResponse)

end ReleaseGate
