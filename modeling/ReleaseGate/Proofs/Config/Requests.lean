import ReleaseGate.Proofs.Config.Channels
import ReleaseGate.Proofs.Publish.Requests
import ReleaseGate.Proofs.Run.Publishes

/-!
# Requests of a configured run

What a run sends when its tokens come from the environment. `Surroundings.recorded` writes every request down before it is sent
and changes nothing else (`records_recorded`), so `Config.Sends` can speak of the requests of a run. Each of them goes to the URL of
a channel, with the token that the variable of the channel holds (`carriesToken_of_sends`).
-/

namespace ReleaseGate

variable {σ : Type}

/-- Surroundings in which every request is written down, beside the state, before it is sent. -/
def Surroundings.recorded (w : Surroundings σ) : Surroundings (σ × List Http.Request) where
  cwd := w.cwd
  environment := w.environment
  commands := w.commands
  client r := Stepwise.logged r (w.client r)
  files := ⟨fun x => w.files.get x.1, fun x fs => (w.files.set x.1 fs, x.2)⟩
  clock x := w.clock x.1

/-- The same surroundings with the variables of an environment. -/
def Surroundings.inEnvironment (w : Surroundings σ) (environment : Environment) : Surroundings σ := { w with environment }

namespace EnvironmentIssuer

/-- A credential is issued when its variable holds a token, and it holds that without the white space around it. -/
theorem credential_eq_ok_iff (i : EnvironmentIssuer) (environment : Environment) (c : Channel) (credential : Credential) :
    i.credential environment c = .ok credential ↔
      ∃ token, environment.lookup (i.tokenVariables.get c) = some token ∧ Text.isBlankText token = false ∧
        credential = { channel := c, username := (i.usernames.get c).getD tokenUsername, secret := Text.trimmed token } := by
  unfold EnvironmentIssuer.credential
  simp only
  cases environment.lookup (i.tokenVariables.get c) with
  | none => simp
  | some token =>
    cases blank : Text.isBlankText token with
    | true => simp [blank]
    | false => simp [blank, eq_comm (a := credential)]

/-- What is issued for a channel depends on the variable of the channel alone. -/
theorem credential_congr (i : EnvironmentIssuer) {environment environment' : Environment} {c : Channel}
    (same : environment.lookup (i.tokenVariables.get c) = environment'.lookup (i.tokenVariables.get c)) :
    i.credential environment c = i.credential environment' c := by
  unfold EnvironmentIssuer.credential
  simp only [same]

end EnvironmentIssuer

namespace Config

/-! ## Runs that read their tokens from the environment -/

/-- The issuer of a configuration that reads the token of each channel from a variable. -/
def environmentIssuer (cfg : Config) : EnvironmentIssuer :=
  { tokenVariables := cfg.credentials.tokenVariables, usernames := cfg.perChannel fun settings => some settings.username }

/-- The pipeline of a configuration with that issuer. -/
def environmentPipeline (cfg : Config) (w : Surroundings σ) : Pipeline σ where
  policy := cfg.gatePolicy
  source := w.onFiles (cfg.source.derive w.commands w.cwd w.environment)
  builder v := w.onFiles (cfg.builder.build w.commands w.cwd w.environment v)
  issuer := cfg.environmentIssuer.issuer w.environment
  publisher := cfg.publisher w
  idempotent := cfg.perChannel ChannelSettings.idempotent
  files := w.files.get
  cwd := w.cwd

theorem pipeline_of_env {cfg : Config} (mode : cfg.credentials.mode = .env) (w : Surroundings σ) :
    cfg.pipeline w = .ok (cfg.environmentPipeline w) := by
  unfold pipeline issuer
  rw [mode]
  rfl

/-- To write requests down changes nothing else. -/
theorem records_recorded (cfg : Config) (w : Surroundings σ) :
    (cfg.environmentPipeline w.recorded).Records (cfg.environmentPipeline w) where
  policy := rfl
  source := rfl
  builder := rfl
  issuer _ := .done _
  registry := PackageIndex.shadows_upload rfl fun _ => Stepwise.shadows_logged _ _
  endpoints := rfl
  clock := rfl
  idempotent := rfl
  files := rfl
  cwd := rfl

/-- A run sends these requests, in this order, and ends with this progress. -/
def Sends (cfg : Config) (w : Surroundings σ) (id : RunId) (t : Trigger) (s : σ) (requests : List Http.Request)
    (progress : Progress) : Prop :=
  ∃ p published s', cfg.pipeline w.recorded = .ok p ∧ p.Ends id t (s, []) published progress (s', requests)

/-- Every end of a run is one whose requests are known. -/
theorem exists_sends_iff {cfg : Config} (mode : cfg.credentials.mode = .env) (w : Surroundings σ) (id : RunId) (t : Trigger) (s : σ)
    (progress : Progress) :
    (∃ requests, cfg.Sends w id t s requests progress) ↔
      ∃ p published s', cfg.pipeline w = .ok p ∧ p.Ends id t s published progress s' := by
  constructor
  · rintro ⟨requests, p, published, s', made, ends⟩
    rw [pipeline_of_env mode] at made
    obtain rfl := Except.ok.inj made
    exact ⟨_, published, s', pipeline_of_env mode w, (cfg.records_recorded w).ends_of ends⟩
  · rintro ⟨p, published, s', made, ends⟩
    rw [pipeline_of_env mode] at made
    obtain rfl := Except.ok.inj made
    obtain ⟨requests, recorded⟩ := ((cfg.records_recorded w).ends_iff id t s published progress s').mp ends
    exact ⟨requests, _, published, s', pipeline_of_env mode w.recorded, recorded⟩

/-! ## What is sent -/

/-- A request goes to the URL of a channel, and carries the token in the variable of the channel, without white space around it. -/
structure CarriesToken (cfg : Config) (environment : Environment) (c : Channel) (r : Http.Request) : Prop where
  url : Http.target (cfg.channels.get c).url = .ok r.url
  token : ∃ token, environment.lookup (cfg.credentials.tokenVariables.get c) = some token ∧
    r.authorization = some (.basic (cfg.channels.get c).username (Text.trimmed token))

/-- The request for an upload to a channel, with a credential that is issued for it, carries the token of the channel. -/
theorem carriesToken_request {cfg : Config} {environment : Environment} {c : Channel} {u : Upload} {content : List UInt8}
    {r : Http.Request} (endpoint : u.endpoint = (cfg.channels.get c).url)
    (issued : cfg.environmentIssuer.credential environment c = .ok u.credential)
    (requested : PackageIndex.request u content = .ok r) : cfg.CarriesToken environment c r := by
  obtain ⟨d, url, -, target, rfl⟩ := (PackageIndex.request_eq_ok_iff u content r).mp requested
  obtain ⟨token, held, -, credential⟩ := (cfg.environmentIssuer.credential_eq_ok_iff environment c u.credential).mp issued
  have username : (cfg.environmentIssuer.usernames.get c).getD tokenUsername = (cfg.channels.get c).username := by
    cases c <;> rfl
  refine ⟨endpoint ▸ target, token, held, ?_⟩
  rw [credential, username]

/-- A publish sends no request but such as carry the token of its channel. -/
theorem adds_publishTo (cfg : Config) (w : Surroundings σ) (set : ArtifactSet) (c : Channel) :
    ((cfg.environmentPipeline w.recorded).publishTo set c).Moves (Stepwise.Adds (cfg.CarriesToken w.environment c)) := by
  have issues : ((cfg.environmentPipeline w.recorded).issuer c).Ensures (Stepwise.Adds (cfg.CarriesToken w.environment c))
      fun answer => ∀ credential, answer = .ok credential →
        cfg.environmentIssuer.credential w.environment c = .ok credential :=
    fun _ same => same
  refine Pipeline.moves_publishTo .refl issues (fun u known issued => ?_) set
  have endpoint : u.endpoint = (cfg.channels.get c).url :=
    (Option.some.inj ((cfg.get_endpoints_publisher w.recorded c).symm.trans known)).symm
  refine PackageIndex.moves_upload .refl fun content r requested => ?_
  exact Stepwise.adds_logged (carriesToken_request endpoint issued requested) (w.client r)

/-- Each request of a run carries the token of the channel to whose URL it goes. -/
theorem carriesToken_of_sends {cfg : Config} (mode : cfg.credentials.mode = .env) {w : Surroundings σ} {id : RunId} {t : Trigger}
    {s : σ} {requests : List Http.Request} {progress : Progress} (h : cfg.Sends w id t s requests progress) :
    ∀ r ∈ requests, ∃ c, cfg.CarriesToken w.environment c r := by
  obtain ⟨p, published, s', made, ends⟩ := h
  rw [pipeline_of_env mode] at made
  obtain rfl := Except.ok.inj made
  have none_before : ∀ {answer y}, (cfg.environmentPipeline w.recorded).prepare id t (s, []) = (answer, y) → y.2 = [] :=
    fun prepared => ((cfg.records_recorded w).prepare_of prepared).2
  cases ends with
  | aborted prepared =>
    obtain rfl : requests = [] := none_before prepared
    exact List.forall_mem_nil _
  | concluded prepared done =>
    have each : ∀ set c, ((cfg.environmentPipeline w.recorded).publishTo set c).Moves
        (Stepwise.Adds fun r => ∃ c, cfg.CarriesToken w.environment c r) :=
      fun set c => (cfg.adds_publishTo w set c).mono fun _ _ adds => adds.mono fun r carries => ⟨c, carries⟩
    obtain ⟨new, adds, carries⟩ := done.moves .refl .trans (each _)
    have all : requests = new := by
      rw [none_before prepared] at adds
      exact adds
    exact all ▸ carries

end Config

end ReleaseGate
