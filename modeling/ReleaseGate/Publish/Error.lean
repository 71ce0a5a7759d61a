import ReleaseGate.Decision
import ReleaseGate.Failure
import ReleaseGate.Http.Status

/-!
# Failures to publish

Why artifacts could not be published to a channel. Such a failure concerns one channel only: it becomes the outcome of that
channel and never ends the run.
-/

namespace ReleaseGate

/-- Why there is no credential for a channel. -/
inductive CredentialFault where
  /-- The variable that holds the token is not set, or is blank. -/
  | unset (name : String)
  /-- No token was configured. -/
  | noToken
  /-- The mint refused to exchange the identity token. -/
  | mintRefused (status : Http.Status) (body : String)
  | other (text : String)
  deriving DecidableEq, Repr

/-- The wording of a missing credential. -/
def CredentialFault.message : CredentialFault → String
  | .unset name => s!"{name} is not set"
  | .noToken => "no token configured"
  | .mintRefused status body => s!"token mint returned {status.text}: {body}"
  | .other text => text

/-- Why the identity of the run could not be shown. -/
inductive IdentityFault where
  /-- A variable of the runtime is not set. -/
  | unset (name : String)
  | refused (status : Http.Status)
  | other (text : String)
  deriving DecidableEq, Repr

/-- The wording of a missing identity. -/
def IdentityFault.message : IdentityFault → String
  | .unset name => s!"{name} is not set"
  | .refused status => s!"identity token request returned {status.text}"
  | .other text => text

/-- Why an artifact set cannot be published as it is. -/
inductive SetFault where
  | empty
  | noDescriptor
  | other (text : String)
  deriving DecidableEq, Repr

/-- The wording of a fault of an artifact set. -/
def SetFault.message : SetFault → String
  | .empty => "no artifacts to publish"
  | .noDescriptor => "package descriptor is missing"
  | .other text => text

/-- Why a request had no usable answer. -/
inductive TransportError where
  /-- The request did not reach the server. -/
  | notSent (url : String)
  /-- The URL is none, or a text cannot stand in a header. -/
  | notMade
  /-- Requests are not made to a URL of such a scheme. -/
  | otherScheme (url : String)
  /-- The body of the answer is not what was asked for. -/
  | undecodable
  | other (text : String)
  deriving DecidableEq, Repr

/-- The wording of a request without a usable answer. -/
def TransportError.message : TransportError → String
  | .notSent url => s!"error sending request for url ({url})"
  | .notMade => "builder error"
  | .otherScheme url => s!"builder error for url ({url})"
  | .undecodable => "error decoding response body"
  | .other text => text

/-- Why artifacts could not be published. -/
inductive PublishError where
  | credentialUnavailable (channel : Channel) (fault : CredentialFault)
  | identityUnavailable (fault : IdentityFault)
  /-- The credential was issued for the other channel. -/
  | credentialScope (expected actual : Channel)
  | credentialExpired (channel : Channel)
  /-- The channel refused the credential. -/
  | credentialRejected (channel : Channel) (status : Http.Status)
  /-- The channel refused a file for any other reason. -/
  | uploadRejected (channel : Channel) (file : String) (status : Http.Status) (body : String)
  | invalidArtifactSet (fault : SetFault)
  | noEndpoint (channel : Channel)
  | http (e : TransportError)
  | io (e : OsError)
  | json (detail : String)
  deriving DecidableEq, Repr

namespace PublishError

/-- The label of a failure to publish. -/
def kind : PublishError → String
  | .credentialUnavailable _ _ => "credential_unavailable"
  | .identityUnavailable _ => "identity_unavailable"
  | .credentialScope _ _ => "credential_scope"
  | .credentialExpired _ => "credential_expired"
  | .credentialRejected _ _ => "credential_rejected"
  | .uploadRejected _ _ _ _ => "upload_rejected"
  | .invalidArtifactSet _ => "invalid_artifact_set"
  | .noEndpoint _ => "no_endpoint"
  | .http _ => "http"
  | .io _ => "io"
  | .json _ => "json"

/-- The wording of a failure to publish. -/
def message : PublishError → String
  | .credentialUnavailable channel fault => s!"{channel} credential unavailable: {fault.message}"
  | .identityUnavailable fault => s!"workload identity unavailable: {fault.message}"
  | .credentialScope expected actual => s!"credential scoped to {actual} cannot publish to {expected}"
  | .credentialExpired channel => s!"{channel} credential expired"
  | .credentialRejected channel status => s!"{channel} rejected the credential (HTTP {status.toNat})"
  | .uploadRejected channel file status body => s!"{channel} rejected {file} (HTTP {status.toNat}): {body}"
  | .invalidArtifactSet fault => s!"artifact set cannot be published: {fault.message}"
  | .noEndpoint channel => s!"no endpoint configured for {channel}"
  | .http e => s!"HTTP error: {e.message}"
  | .io e => s!"IO error: {e.message}"
  | .json detail => s!"JSON parsing error: {detail}"

/-- A failure to publish to a channel, among the failures of a run. -/
def toFailure (e : PublishError) (channel : Channel) : Failure := .publish channel e.message

/-- The outcome of a channel to which publishing failed. -/
def toOutcome (e : PublishError) (channel : Channel) : Outcome := .failed (e.toFailure channel).labelled

end PublishError

end ReleaseGate
