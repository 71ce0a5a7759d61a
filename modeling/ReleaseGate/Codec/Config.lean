import ReleaseGate.Codec.Domain
import ReleaseGate.Config

/-!
# Configurations as JSON

How a configuration is shown with its defaults filled in. The directory of its file is no part of it.
-/

namespace ReleaseGate.Codec

open Json

/-- A mode as it is stored. -/
def ofMode (m : Config.CredentialMode) : Json := str m.name

/-- The mode that a value stands for. -/
def mode? : Json → Option Config.CredentialMode := named? Config.CredentialMode.ofName?

/-- The settings of a channel. -/
def ofChannelSettings (s : Config.ChannelSettings) : Json :=
  object [("url", str s.url), ("mint_url", ofText? s.mintUrl), ("idempotent", bool s.idempotent), ("username", str s.username)]

/-- The settings for credentials. -/
def ofCredentials (c : Config.Credentials) : Json :=
  object [("mode", ofMode c.mode), ("staging_token_env", str c.tokenVariables.staging),
    ("production_token_env", str c.tokenVariables.production), ("oidc_request_url_env", str c.identityUrlVariable),
    ("oidc_request_token_env", str c.identitySecretVariable), ("oidc_audience", ofText? c.audience)]

/-- A configuration with its defaults. -/
def ofConfig (cfg : Config) : Json :=
  object [
    ("repository", object [("canonical", str cfg.repository.canonical), ("trunk_branch", str cfg.repository.trunkBranch)]),
    ("version", object [("command", ofList str cfg.version.command)]),
    ("build",
      object [("command", ofList str cfg.build.command), ("output_root", ofPath cfg.build.outputRoot),
        ("version_env", str cfg.build.versionVariable)]),
    ("package",
      object [("name", str cfg.package.name), ("summary", str cfg.package.summary),
        ("readme", ofOption ofPath cfg.package.readme), ("readme_content_type", str cfg.package.contentType)]),
    ("channels",
      object [("staging", ofChannelSettings cfg.channels.staging), ("production", ofChannelSettings cfg.channels.production)]),
    ("credentials", ofCredentials cfg.credentials)]

end ReleaseGate.Codec
