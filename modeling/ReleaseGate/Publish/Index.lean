import ReleaseGate.Http.Message
import ReleaseGate.Publish.FileTags
import ReleaseGate.Publish.Registry

/-!
# Package indexes

The registry behind a channel is a package index that takes each file as a form. The status of its answer decides: success means
that the file was made, a conflict or a complaint that the file already exists means that it was there, and anything else
refuses the credential or the file.
-/

namespace ReleaseGate

/-- What uploads to a package index: a client, and how the content of an artifact is read. -/
structure PackageIndex (σ : Type) where
  client : Http.Client σ
  contentAt : σ → Path → Except OsError (List UInt8)

namespace PackageIndex

variable {σ : Type}

/-- The fields of the form for an artifact with a given content. -/
def formFields (s : ArtifactSet) (d : Descriptor) (a : Artifact) (content : List UInt8) : List Http.FormField :=
  [.ofText ":action" "file_upload", .ofText "protocol_version" "1", .ofText "metadata_version" "2.1", .ofText "name" d.name,
    .ofText "version" s.version.text, .ofText "summary" d.summary, .ofText "description" d.longDescription,
    .ofText "description_content_type" d.contentType, .ofText "filetype" (FileTags.fileType a.fileName),
    .ofText "pyversion" (FileTags.interpreterTag a.fileName), .ofText "sha256_digest" a.sha256,
    { name := "content", fileName := some a.fileName, contentType := some "application/octet-stream", value := content }]

/-- The request for an upload, given the content of the artifact. -/
def request (u : Upload) (content : List UInt8) : Except PublishError Http.Request :=
  match u.set.descriptor with
  | none => .error (.invalidArtifactSet .noDescriptor)
  | some d =>
    match Http.target u.endpoint with
    | .error e => .error (.http e)
    | .ok url =>
      .ok
        { method := .post, url, authorization := some (.basic u.credential.username u.credential.secret)
          body := .form (formFields u.set d u.artifact content) }

/-- Whether an answer that refuses a file says that the file was there already. -/
def saysPresent (status : Http.Status) (body : String) : Bool :=
  status == 409 || (status == 400 && Text.containsText "already exists".toList (Text.lowerAscii body.toList))

/-- The longest explanation of a refusal that is kept, in characters. -/
def maxExplanation : Nat := 500

/-- The explanation of a refusal, from the body of the answer. -/
def explanation (body : String) : String := String.ofList ((Text.trim body.toList).take maxExplanation)

/-- What an answer says about an upload. -/
def verdict (u : Upload) (r : Http.Response) : Except PublishError UploadResponse :=
  if r.isSuccess then .ok .created
  else if saysPresent r.status r.text then .ok .alreadyExists
  else if r.status == 401 || r.status == 403 then .error (.credentialRejected u.credential.channel r.status)
  else .error (.uploadRejected u.credential.channel u.artifact.fileName r.status (explanation r.text))

/-- Uploads by reading the file and sending its form. -/
def upload (i : PackageIndex σ) : Registry σ := fun u => do
  match ← Stepwise.observe fun s => i.contentAt s u.artifact.path with
  | .error e => pure (.error (.io e))
  | .ok content =>
    match request u content with
    | .error e => pure (.error e)
    | .ok request =>
      match ← i.client request with
      | .error e => pure (.error (.http e))
      | .ok response => pure (verdict u response)

end PackageIndex

end ReleaseGate
