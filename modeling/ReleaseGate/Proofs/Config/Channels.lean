import ReleaseGate.Config.Pipeline
import ReleaseGate.Proofs.Config.Acceptance
import ReleaseGate.Proofs.Run.Calls
import ReleaseGate.Proofs.Run.ExitStatus

/-!
# Channels of an accepted configuration

An accepted configuration gives each channel an endpoint and a token of its own, and a run uploads a file to the endpoint of the
channel whose credential it carries. `KeepsApart` says so. The endpoints differ by more than case and slashes at the end as they
are written. White space around a URL is another matter. A client drops it, but the check that compares the URLs does not: two
endpoints that differ in nothing else are accepted, and are one endpoint to a client (`parse_spaced`).
-/

namespace ReleaseGate

namespace Config

/-! ## Plain URLs -/

/-- What is left of a URL without the white space around it and the slashes at its end, its ASCII letters in lower case. -/
def plainUrl (url : String) : String := Text.loweredAscii (withoutEndSlashes (Text.trimmed url))

/-- URLs are the same, white space around them apart, when they are plainly so. -/
theorem sameUrl_trimmed_iff (a b : String) :
    sameUrl (Text.trimmed a) (Text.trimmed b) = true ↔ plainUrl a = plainUrl b := by
  unfold sameUrl Text.sameIgnoringCase plainUrl Text.loweredAscii
  rw [beq_iff_eq, String.ofList_inj]

/-- Without white space around them, URLs that pass for different ones are plainly different. -/
theorem plainUrl_ne_of_trimmed {a b : String} (different : sameUrl a b = false) (ha : Text.trimmed a = a)
    (hb : Text.trimmed b = b) : plainUrl a ≠ plainUrl b := by
  intro same
  have alike := (sameUrl_trimmed_iff a b).mpr same
  rw [ha, hb, different] at alike
  cases alike

/-! ## Endpoints -/

variable {σ : Type}

theorem get_perChannel {α : Type} (cfg : Config) (setting : ChannelSettings → α) (c : Channel) :
    (cfg.perChannel setting).get c = setting (cfg.channels.get c) := by
  cases c <;> rfl

/-- The publisher of a configuration has an endpoint for each channel, which is the URL of the channel. -/
theorem get_endpoints_publisher (cfg : Config) (w : Surroundings σ) (c : Channel) :
    (cfg.publisher w).endpoints.get c = some (cfg.channels.get c).url :=
  get_perChannel cfg (fun settings => some settings.url) c

theorem publisher_of_pipeline {cfg : Config} {w : Surroundings σ} {p : Pipeline σ} (h : cfg.pipeline w = .ok p) :
    p.publisher = cfg.publisher w := by
  unfold pipeline at h
  cases issued : cfg.issuer w with
  | error e =>
    rw [issued] at h
    cases h
  | ok issuer =>
    rw [issued] at h
    obtain rfl := Except.ok.inj h
    rfl

/-- Whatever a run of a pipeline uploads goes to the endpoint of the channel whose credential it carries. -/
theorem endpoint_of_recorded {p : Pipeline σ} {id : RunId} {t : Trigger} {s : σ} {y : σ × List Call}
    {published : List (Channel × Outcome × UInt64)} {progress : Progress}
    (h : p.recorded.Ends id t (s, []) published progress y) (u : Upload) (hu : .upload u ∈ y.2) :
    p.publisher.endpoints.get u.credential.channel = some u.endpoint :=
  ((Pipeline.accounted_of_recorded h).uploads u hu).1.endpoint

/-- A configuration keeps its channels apart, and these are the URLs of its channels. -/
structure KeepsApart (cfg : Config) (w : Surroundings σ) (urls : PerChannel String) : Prop where
  endpoints : (cfg.publisher w).endpoints = ⟨some urls.staging, some urls.production⟩
  given (c : Channel) : Text.isBlankText (urls.get c) = false
  /-- As they are written, the URLs differ by more than the case of letters and slashes at the end. -/
  written : sameUrl urls.staging urls.production = false
  /-- Without white space around them they are plainly different. -/
  plain : (∀ c, Text.trimmed (urls.get c) = urls.get c) → plainUrl urls.staging ≠ plainUrl urls.production
  tokenVariables : cfg.credentials.tokenVariables.staging ≠ cfg.credentials.tokenVariables.production
  /-- Whatever a run uploads goes to the URL of the channel whose credential it carries. -/
  uploads : ∀ p, cfg.pipeline w = .ok p → ∀ id t s published progress s' calls,
    p.recorded.Ends id t (s, []) published progress (s', calls) →
      ∀ u, .upload u ∈ calls → u.endpoint = urls.get u.credential.channel

theorem MakesSense.keepsApart {cfg : Config} (h : cfg.MakesSense) (w : Surroundings σ) :
    cfg.KeepsApart w (cfg.perChannel ChannelSettings.url) where
  endpoints := rfl
  given c := by
    rw [get_perChannel]
    exact h.url c
  written := h.urls
  plain bare := plainUrl_ne_of_trimmed h.urls (bare .staging) (bare .production)
  tokenVariables := h.tokenVariables
  uploads := by
    intro p made id t s published progress s' calls recorded u hu
    have known := endpoint_of_recorded recorded u hu
    rw [publisher_of_pipeline made, get_endpoints_publisher] at known
    rw [get_perChannel]
    exact (Option.some.inj known).symm

/-- Every configuration that is accepted keeps its channels apart, white space around their URLs aside. -/
theorem keepsApart_of_parse {baseDir : Path} {text : String} {cfg : Config} (accepted : parse baseDir text = .ok cfg)
    (w : Surroundings σ) : ∃ urls, cfg.KeepsApart w urls :=
  ⟨_, ((parse_eq_ok_iff baseDir text cfg).mp accepted).2.keepsApart w⟩

end Config

namespace Widget

open Config

/-- A configuration for the widget, with the URL of its staging channel left open. -/
def configText (stagingUrl : String) : String :=
  "repository.canonical='acme/widget'\npackage.name='widget'\n" ++
    s!"channels.staging.url='{stagingUrl}'\nchannels.production.url='https://upload.pypi.org/legacy/'\n"

/-- What that text holds. -/
def config (stagingUrl : String) : Config :=
  { repository := { canonical := "acme/widget" }, package := { name := "widget" }
    channels := ⟨{ url := stagingUrl }, { url := "https://upload.pypi.org/legacy/" }⟩ }

/-- The channels of the widget are apart. -/
theorem keepsApart_configText :
    ∃ cfg urls, parse ⟨"."⟩ (configText "https://test.pypi.org/legacy/") = .ok cfg ∧
      cfg.KeepsApart CommandLine.bareSurroundings urls := by
  have accepted : parse ⟨"."⟩ (configText "https://test.pypi.org/legacy/") = .ok (config "https://test.pypi.org/legacy/") :=
    (parse_eq_ok_iff _ _ _).mpr ⟨by decide +kernel, (check_eq_ok_iff _).mp rfl⟩
  obtain ⟨urls, apart⟩ := keepsApart_of_parse accepted CommandLine.bareSurroundings
  exact ⟨_, urls, accepted, apart⟩

/-- The URL to which both channels lead when they differ by a blank at the end only. -/
def productionUrl : Http.Url :=
  { secure := true, host := "upload.pypi.org", portNumber := none, path := ["legacy", ""], query := none, mark := none }

/-- The checks let two endpoints pass that differ by a blank at the end only, and to a client they are one. -/
theorem parse_spaced :
    ∃ (cfg : Config) (urls : PerChannel String), parse ⟨"."⟩ (configText "https://upload.pypi.org/legacy/ ") = .ok cfg ∧
      (cfg.publisher CommandLine.bareSurroundings).endpoints = ⟨some urls.staging, some urls.production⟩ ∧
      plainUrl urls.staging = plainUrl urls.production ∧ ∀ c, Http.target (urls.get c) = .ok productionUrl := by
  have accepted : parse ⟨"."⟩ (configText "https://upload.pypi.org/legacy/ ") = .ok (config "https://upload.pypi.org/legacy/ ") :=
    (parse_eq_ok_iff _ _ _).mpr ⟨by decide +kernel, (check_eq_ok_iff _).mp rfl⟩
  refine ⟨_, (config "https://upload.pypi.org/legacy/ ").perChannel ChannelSettings.url, accepted, rfl, by decide +kernel,
    fun c => ?_⟩
  cases c with
  | staging => rfl
  | production => rfl

end Widget

end ReleaseGate
