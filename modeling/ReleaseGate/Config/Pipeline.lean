import ReleaseGate.Config
import ReleaseGate.Pipeline
import ReleaseGate.Publish.Index
import ReleaseGate.Publish.Mint

/-!
# The pipeline of a configuration

A configuration says what a run works with: the derivation tool and the build command it names, the package indexes of its
channels, and the tokens of the environment or of the mints.
-/

namespace ReleaseGate

/-- Where a run takes place: the working directory and the variables of the process, and what the state says about files and
time. -/
structure Surroundings (σ : Type) where
  cwd : Place
  environment : Environment
  commands : CommandRunner
  client : Http.Client σ
  files : Stepwise.Part σ FileSystem
  clock : σ → Timestamp

namespace Surroundings

variable {σ α : Type}

/-- What a computation on files makes of a state. -/
def onFiles (w : Surroundings σ) (f : FileSystem → α × FileSystem) (s : σ) : α × σ :=
  let (a, fs) := f (w.files.get s)
  (a, w.files.set s fs)

end Surroundings

namespace Config

variable {σ : Type}

/-- The publisher to the channels of a configuration. -/
def publisher (cfg : Config) (w : Surroundings σ) : Publisher σ :=
  let index : PackageIndex σ := { client := w.client, contentAt := fun s path => (w.files.get s).readBytes w.cwd path }
  { registry := index.upload, endpoints := cfg.perChannel fun settings => some settings.url, clock := w.clock }

/-- The issuer that the mode of a configuration asks for. Minting needs a runtime that says where identity tokens are handed
out. -/
def issuer (cfg : Config) (w : Surroundings σ) : Except PublishError (Issuer σ) :=
  match cfg.credentials.mode with
  | .env =>
    let fromEnvironment : EnvironmentIssuer :=
      { tokenVariables := cfg.credentials.tokenVariables, usernames := cfg.perChannel fun settings => some settings.username }
    .ok (fromEnvironment.issuer w.environment)
  | .oidc =>
    (MintIssuer.ofEnvironment cfg.credentials.identityUrlVariable cfg.credentials.identitySecretVariable cfg.credentials.audience
      (cfg.perChannel ChannelSettings.mintUrl) w.client w.clock w.environment).map MintIssuer.issuer

/-- The pipeline of a configuration. -/
def pipeline (cfg : Config) (w : Surroundings σ) : Except PublishError (Pipeline σ) :=
  (cfg.issuer w).map fun issuer =>
    { policy := cfg.gatePolicy
      source := w.onFiles (cfg.source.derive w.commands w.cwd w.environment)
      builder := fun v => w.onFiles (cfg.builder.build w.commands w.cwd w.environment v)
      issuer
      publisher := cfg.publisher w
      idempotent := cfg.perChannel ChannelSettings.idempotent
      files := w.files.get
      cwd := w.cwd }

end Config

end ReleaseGate
