import ReleaseGate.Builder
import ReleaseGate.Config.Error
import ReleaseGate.Gate
import ReleaseGate.Publish.Credential
import ReleaseGate.Resolver

/-!
# Configuration

What a project says about its releases. Only the canonical repository, the name of the package and the URLs of the channels have
to be given; all else has a default. `check` refuses what makes no sense, above all two channels that are one: their URLs differ
by more than case and slashes at the end, and so do the variables of their tokens.
-/

namespace ReleaseGate

namespace Config

/-- Which repository and branch may publish pushes. -/
structure Repository where
  canonical : String
  trunkBranch : String := "main"
  deriving DecidableEq, Repr

/-- How the version is derived. -/
structure Derivation where
  command : List String := ["python", "-m", "setuptools_scm"]
  deriving DecidableEq, Repr

/-- How artifacts are built. -/
structure Build where
  command : List String := ["python", "-m", "build", "--outdir", Builder.outputPlaceholder]
  outputRoot : Path := ⟨"dist"⟩
  versionVariable : String := "SETUPTOOLS_SCM_PRETEND_VERSION"
  deriving DecidableEq, Repr

/-- What the package is. -/
structure Package where
  name : String
  summary : String := ""
  readme : Option Path := some ⟨"README.md"⟩
  contentType : String := "text/markdown"
  deriving DecidableEq, Repr

/-- Where a channel is. -/
structure ChannelSettings where
  /-- Where files are uploaded. -/
  url : String
  /-- Where an identity token is exchanged for a token of the channel. -/
  mintUrl : Option String := none
  /-- Whether files that are there already are no failure. -/
  idempotent : Bool := true
  username : String := tokenUsername
  deriving DecidableEq, Repr

/-- Where tokens come from. -/
inductive CredentialMode where
  /-- From variables of the environment. -/
  | env
  /-- From the mints of the channels. -/
  | oidc
  deriving DecidableEq, Repr

/-- The modes. -/
def CredentialMode.all : List CredentialMode := [.env, .oidc]

/-- The name of a mode. -/
def CredentialMode.name : CredentialMode → String
  | .env => "env"
  | .oidc => "oidc"

/-- The mode of a name. -/
def CredentialMode.ofName? (s : String) : Option CredentialMode := CredentialMode.all.find? (·.name == s)

/-- How tokens are got hold of. -/
structure Credentials where
  mode : CredentialMode := .env
  /-- The variables that hold the tokens of the channels. -/
  tokenVariables : PerChannel String := ⟨"SHIPGATE_STAGING_TOKEN", "SHIPGATE_PRODUCTION_TOKEN"⟩
  /-- The variable that says where identity tokens are handed out. -/
  identityUrlVariable : String := "ACTIONS_ID_TOKEN_REQUEST_URL"
  /-- The variable that holds what has to be shown there. -/
  identitySecretVariable : String := "ACTIONS_ID_TOKEN_REQUEST_TOKEN"
  audience : Option String := none
  deriving DecidableEq, Repr

end Config

/-- A configuration. -/
structure Config where
  repository : Config.Repository
  version : Config.Derivation := {}
  build : Config.Build := {}
  package : Config.Package
  channels : PerChannel Config.ChannelSettings
  credentials : Config.Credentials := {}
  /-- The directory from which relative paths are read. -/
  baseDir : Path := ⟨"."⟩
  deriving DecidableEq, Repr

namespace Config

/-- Refuses with an error when something is wrong. -/
def require (ok : Bool) (e : Error) : Except Error Unit := if ok then .ok () else .error e

/-- Refuses a channel without a URL, or without a mint when tokens are minted. -/
def checkChannel (cfg : Config) (c : Channel) : Except Error Unit :=
  (require (!Text.isBlankText (cfg.channels.get c).url) (.noUrl c)).bind fun _ =>
    require (cfg.credentials.mode == .env || (cfg.channels.get c).mintUrl.isSome) (.noMintUrl c)

/-- A URL without the slashes at its end. -/
def withoutEndSlashes (url : String) : String :=
  String.ofList (url.toList.reverse.dropWhile (· == '/')).reverse

/-- Whether two URLs are the same but for the case of ASCII letters and slashes at the end. -/
def sameUrl (a b : String) : Bool := Text.sameIgnoringCase (withoutEndSlashes a) (withoutEndSlashes b)

/-- Refuses a configuration that makes no sense. Of several faults the first in this order is told. -/
def check (cfg : Config) : Except Error Unit := do
  require (!Text.isBlankText cfg.repository.canonical) .noCanonicalRepository
  require (!Text.isBlankText cfg.repository.trunkBranch) .noTrunkBranch
  require (!cfg.version.command.isEmpty) .noVersionCommand
  require (!cfg.build.command.isEmpty) .noBuildCommand
  require (!Text.isBlankText cfg.build.versionVariable) .noVersionVariable
  require (!Text.isBlankText cfg.package.name) .noPackageName
  cfg.checkChannel .staging
  cfg.checkChannel .production
  require (!sameUrl cfg.channels.staging.url cfg.channels.production.url) .sameUrls
  require (cfg.credentials.tokenVariables.staging != cfg.credentials.tokenVariables.production) .sameTokenVariables

/-- The policy of the gate. -/
def gatePolicy (cfg : Config) : GatePolicy :=
  { canonicalRepository := cfg.repository.canonical, trunkBranch := cfg.repository.trunkBranch }

/-- The derivation tool. -/
def source (cfg : Config) : CommandSource := { command := cfg.version.command, directory := cfg.baseDir }

/-- The build command. -/
def builder (cfg : Config) : Builder :=
  { command := cfg.build.command, directory := cfg.baseDir, outputRoot := cfg.build.outputRoot
    versionVariable := cfg.build.versionVariable
    package :=
      { name := cfg.package.name, summary := cfg.package.summary, readme := cfg.package.readme,
        contentType := cfg.package.contentType } }

/-- The value of a setting for each channel. -/
def perChannel {α : Type} (cfg : Config) (f : ChannelSettings → α) : PerChannel α :=
  ⟨f cfg.channels.staging, f cfg.channels.production⟩

end Config

end ReleaseGate
