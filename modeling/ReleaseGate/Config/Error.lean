import ReleaseGate.Channel
import ReleaseGate.Files.OsError
import ReleaseGate.Files.Path

/-!
# Refused configurations

Why a configuration is refused, in the order in which the faults are looked for: the file cannot be read, its text is no
configuration, or a value that is there makes no sense.
-/

namespace ReleaseGate.Config

/-- Why a configuration is refused. -/
inductive Error where
  | unreadable (path : Path) (e : OsError)
  /-- The text is no TOML, or a field is missing, unknown or of another type. -/
  | malformed (detail : String)
  | noCanonicalRepository
  | noTrunkBranch
  | noVersionCommand
  | noBuildCommand
  | noVersionVariable
  | noPackageName
  | noUrl (channel : Channel)
  | noMintUrl (channel : Channel)
  | sameUrls
  | sameTokenVariables
  deriving DecidableEq, Repr

/-- The wording of a refusal. -/
def Error.message : Error → String
  | .unreadable path e => s!"cannot read {path}: {e.message}"
  | .malformed detail => s!"invalid configuration: {detail}"
  | .noCanonicalRepository => "repository.canonical must name the canonical repository"
  | .noTrunkBranch => "repository.trunk_branch is empty"
  | .noVersionCommand => "version.command is empty"
  | .noBuildCommand => "build.command is empty"
  | .noVersionVariable => "build.version_env is empty"
  | .noPackageName => "package.name is empty"
  | .noUrl channel => s!"channels.{channel}.url is empty"
  | .noMintUrl channel => s!"channels.{channel}.mint_url is required for oidc credentials"
  | .sameUrls => "staging and production must use different URLs"
  | .sameTokenVariables => "staging and production must use different token variables"

end ReleaseGate.Config
