import ReleaseGate.Process
import ReleaseGate.Publish.Error
import ReleaseGate.Stepwise
import ReleaseGate.Timestamp

/-!
# Credentials

A credential allows uploads to exactly one channel. It is asked for right before a publish, handed to it, and used for nothing
else; its secret is never shown.
-/

namespace ReleaseGate

/-- The user name that registries expect beside a token. -/
def tokenUsername : String := "__token__"

/-- A permission to upload to one channel. -/
structure Credential where
  channel : Channel
  username : String := tokenUsername
  secret : String
  expiresAt : Option Timestamp := none
  deriving DecidableEq

namespace Credential

/-- Whether a credential is no longer valid at a point in time. -/
def isExpiredAt (c : Credential) (now : Timestamp) : Bool := c.expiresAt.any fun t => t.isUpTo now

/-- How a channel is shown among the fields of a credential. -/
def channelLabel : Channel → String
  | .staging => "Staging"
  | .production => "Production"

/-- What of a credential may be shown. -/
def shown (c : Credential) : String :=
  let expiry :=
    match c.expiresAt with
    | some t => s!"Some({t})"
    | none => "None"
  s!"ChannelCredential \x7b channel: {channelLabel c.channel}, username: {Text.quoted c.username}, " ++
    s!"secret: \"<redacted>\", expires_at: {expiry} \x7d"

end Credential

/-- What issues a fresh credential for a channel each time it is asked. -/
abbrev Issuer (σ : Type) := Channel → Stepwise σ (Except PublishError Credential)

/-- An issuer that reads the token of each channel from a variable of its own. -/
structure EnvironmentIssuer where
  tokenVariables : PerChannel String
  usernames : PerChannel (Option String) := .both none

namespace EnvironmentIssuer

/-- The credential for a channel, given the variables of the environment. A blank variable counts as not set. -/
def credential (i : EnvironmentIssuer) (environment : Environment) (c : Channel) : Except PublishError Credential :=
  let name := i.tokenVariables.get c
  match environment.lookup name with
  | some value =>
    if Text.isBlankText value then .error (.credentialUnavailable c (.unset name))
    else .ok { channel := c, username := (i.usernames.get c).getD tokenUsername, secret := Text.trimmed value }
  | none => .error (.credentialUnavailable c (.unset name))

/-- The issuer at work in an environment. -/
def issuer {σ : Type} (i : EnvironmentIssuer) (environment : Environment) : Issuer σ :=
  fun c => pure (i.credential environment c)

end EnvironmentIssuer

end ReleaseGate
