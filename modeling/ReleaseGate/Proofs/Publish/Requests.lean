import ReleaseGate.Proofs.Stepwise.Observation
import ReleaseGate.Publish.Index

/-!
# Requests of uploads

An upload to a package index reads its file and sends one request. So it may do what the client may do with that request
(`moves_upload`), and two uploads with different credentials of a channel go in step when the requests with these do
(`alike_upload`): the credential has no part in anything else.
-/

namespace ReleaseGate.PackageIndex

variable {σ τ ν : Type}

/-- A request is made for a set with a descriptor and to an endpoint with a URL. It carries the credential, and the form for the
artifact. -/
theorem request_eq_ok_iff (u : Upload) (content : List UInt8) (r : Http.Request) :
    request u content = .ok r ↔
      ∃ d url, u.set.descriptor = some d ∧ Http.target u.endpoint = .ok url ∧
        r = { method := .post, url, authorization := some (.basic u.credential.username u.credential.secret)
              body := .form (formFields u.set d u.artifact content) } := by
  unfold request
  cases u.set.descriptor with
  | none => simp
  | some d =>
    cases Http.target u.endpoint with
    | error e => simp
    | ok url => simp [eq_comm]

/-- With another credential, the request for an upload is the same but for the credential. -/
theorem request_credential (u : Upload) (credential : Credential) (content : List UInt8) :
    request { u with credential } content =
      (request u content).map fun r => { r with authorization := some (.basic credential.username credential.secret) } := by
  unfold request
  cases u.set.descriptor with
  | none => rfl
  | some d => cases Http.target u.endpoint <;> rfl

/-- What an answer says about an upload depends on no more of its credential than the channel. -/
theorem verdict_credential (u : Upload) {credential : Credential} (scope : credential.channel = u.credential.channel)
    (r : Http.Response) : verdict { u with credential } r = verdict u r := by
  unfold verdict
  simp only [scope]

/-- What a client may do with the request for an upload, the upload may do. -/
theorem moves_upload {Q : σ → σ → Prop} (refl : ∀ s, Q s s) {i : PackageIndex σ} {u : Upload}
    (sends : ∀ content r, request u content = .ok r → (i.client r).Moves Q) : (i.upload u).Moves Q := by
  refine (Stepwise.moves_observe refl _).bind fun answer => ?_
  cases answer with
  | error e => exact Stepwise.moves_pure _
  | ok content =>
    simp only
    cases requested : request u content with
    | error e => exact Stepwise.moves_pure _
    | ok r =>
      refine (sends content r requested).bind fun response => ?_
      cases response <;> exact Stepwise.moves_pure _

/-- Uploads of a file with two credentials of a channel go in step when both read the same of it, and the requests with the two
credentials do. -/
theorem alike_upload {v : σ → ν} {w : τ → ν} {i : PackageIndex σ} {j : PackageIndex τ} (u : Upload) {credential : Credential}
    (scope : credential.channel = u.credential.channel)
    (reads : ∀ s t, v s = w t → i.contentAt s u.artifact.path = j.contentAt t u.artifact.path)
    (sends : ∀ content r, request u content = .ok r → Stepwise.Alike v w Eq (i.client r)
      (j.client { r with authorization := some (.basic credential.username credential.secret) })) :
    Stepwise.Alike v w Eq (i.upload u) (j.upload { u with credential }) := by
  refine (Stepwise.alike_observe (R := Eq) reads).bind fun answer answer' same => ?_
  subst same
  cases answer with
  | error e => exact .done rfl
  | ok content =>
    simp only
    rw [request_credential u credential content]
    cases requested : request u content with
    | error e => exact .done rfl
    | ok r =>
      refine (sends content r requested).bind fun response response' same => ?_
      subst same
      cases response with
      | error e => exact .done rfl
      | ok response => exact .done (verdict_credential u scope response).symm

/-- An upload beside a log does what the upload does, when its client does what the client does. -/
theorem shadows_upload {ε : Type} {j : PackageIndex (σ × List ε)} {i : PackageIndex σ}
    (reads : j.contentAt = fun x => i.contentAt x.1) (sends : ∀ r, Stepwise.Shadows (j.client r) (i.client r)) (u : Upload) :
    Stepwise.Shadows (j.upload u) (i.upload u) := by
  unfold upload
  rw [reads]
  refine (Stepwise.shadows_observe fun s => i.contentAt s u.artifact.path).bind fun answer => ?_
  cases answer with
  | error e => exact .done _
  | ok content =>
    simp only
    cases request u content with
    | error e => exact .done _
    | ok r =>
      refine (sends r).bind fun response => ?_
      cases response <;> exact .done _

end ReleaseGate.PackageIndex
