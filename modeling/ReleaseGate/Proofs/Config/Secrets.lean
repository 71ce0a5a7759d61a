import ReleaseGate.Proofs.Build.Conventional
import ReleaseGate.Proofs.Config.Requests
import ReleaseGate.Proofs.Publish.Answers
import ReleaseGate.Proofs.Run.Agreement

/-!
# Secrets of channels

The token of a channel is for its server alone. Take two runs of a configuration in environments that differ in the token of one
channel only, with all else that the runs go by the same: then the other channel is sent the same requests in both, and both runs
report and tell the same (`secrets_apart`). It comes down to what a publish sees. The publish to the other channel goes by what its
server holds, by the files of the set and by its own token, and the two publishes to the channel itself go in step because its
server answers alike to both tokens (`alike_publishTo`). And what a publish sees, the publish to the other channel leaves as it is
(`keeps_seen`).
-/

namespace ReleaseGate

/-- Two environments hold a token each in one variable, and agree on all others. -/
structure Environment.DifferIn (name token token' : String) (e e' : Environment) : Prop where
  holds : e.lookup name = some token
  holds' : e'.lookup name = some token'
  filled : Text.isBlankText token = false
  filled' : Text.isBlankText token' = false
  others : ∀ other, other ≠ name → e.lookup other = e'.lookup other

/-- The servers behind a client: to which of them a URL leads, and what each of them holds in a state. -/
structure Servers (σ κ ν : Type) where
  leads : Http.Url → κ
  holds : κ → σ → ν

variable {σ κ ν : Type}

namespace Servers

/-- Each server serves for itself. A request is answered by what its server holds, changes what that server holds, and leaves the
other servers and the files as they are. -/
structure Serve (servers : Servers σ κ ν) (w : Surroundings σ) : Prop where
  answers (r : Http.Request) :
    Stepwise.Alike (servers.holds (servers.leads r.url)) (servers.holds (servers.leads r.url)) Eq (w.client r) (w.client r)
  others (r : Http.Request) (k : κ) : servers.leads r.url ≠ k → (w.client r).Keeps (servers.holds k)
  files (r : Http.Request) : (w.client r).Keeps w.files.get
  /-- No server holds files of the run. -/
  remote (k : κ) (s : σ) (fs : FileSystem) : servers.holds k (w.files.set s fs) = servers.holds k s

/-- A server does not tell two secrets apart: requests that differ in nothing else are answered alike. -/
def Ignores (servers : Servers σ κ ν) (w : Surroundings σ) (k : κ) (secret secret' : String) : Prop :=
  ∀ (r : Http.Request) (username : String), servers.leads r.url = k →
    Stepwise.Alike (servers.holds k) (servers.holds k) Eq (w.client { r with authorization := some (.basic username secret) })
      (w.client { r with authorization := some (.basic username secret') })

end Servers

namespace Config

/-- Two runs of a valid configuration that reads its tokens from the environment differ in the token of a channel only. The servers
of the channels are different ones and start out alike, the server of the channel answers alike to both tokens, and the runs have
the same candidate for a version and build the same. -/
structure DifferInToken (cfg : Config) (servers : Servers σ κ ν) (urls : PerChannel Http.Url) (c : Channel) (w : Surroundings σ)
    (e e' : Environment) (trigger : Trigger) (s t : σ) : Prop where
  valid : cfg.check = .ok ()
  mode : cfg.credentials.mode = .env
  targets (d : Channel) : Http.target (cfg.channels.get d).url = .ok (urls.get d)
  different : servers.leads urls.staging ≠ servers.leads urls.production
  serve : servers.Serve w
  tokens : ∃ token token', Environment.DifferIn (cfg.credentials.tokenVariables.get c) token token' e e' ∧
    servers.Ignores w (servers.leads (urls.get c)) (Text.trimmed token) (Text.trimmed token')
  start (k : κ) : servers.holds k s = servers.holds k t
  prepares (p q : Pipeline σ) : cfg.pipeline (w.inEnvironment e) = .ok p → cfg.pipeline (w.inEnvironment e') = .ok q →
    p.PreparesAlike q trigger s t

/-- The requests to a URL. -/
def requestsTo (url : Http.Url) (requests : List Http.Request) : List Http.Request := requests.filter (·.url = url)

variable {cfg : Config} {servers : Servers σ κ ν} {urls : PerChannel Http.Url} {c : Channel} {w : Surroundings σ}
  {e e' : Environment} {trigger : Trigger} {s t : σ}

/-- What is different for staging and production is different for different channels. -/
theorem ne_of_channel_ne {α : Type} {f : Channel → α} (different : f .staging ≠ f .production) {d d' : Channel} (other : d ≠ d') :
    f d ≠ f d' := by
  cases d <;> cases d'
  · exact absurd rfl other
  · exact different
  · exact different.symm
  · exact absurd rfl other

/-- The URLs of two channels do not lead to one server. -/
theorem DifferInToken.leads_ne (h : cfg.DifferInToken servers urls c w e e' trigger s t) {d d' : Channel} (other : d ≠ d') :
    servers.leads (urls.get d) ≠ servers.leads (urls.get d') :=
  ne_of_channel_ne (f := fun d => servers.leads (urls.get d)) h.different other

/-- The tokens of two channels are not in one variable. -/
theorem DifferInToken.variable_ne (h : cfg.DifferInToken servers urls c w e e' trigger s t) {d d' : Channel} (other : d ≠ d') :
    cfg.credentials.tokenVariables.get d ≠ cfg.credentials.tokenVariables.get d' :=
  ne_of_channel_ne (f := cfg.credentials.tokenVariables.get) ((check_eq_ok_iff cfg).mp h.valid).tokenVariables other

/-- A request for an upload to the endpoint of a channel goes to the URL of the channel. -/
theorem DifferInToken.url_eq (h : cfg.DifferInToken servers urls c w e e' trigger s t) {w' : Surroundings (σ × List Http.Request)}
    {d : Channel} {u : Upload} (known : (cfg.publisher w').endpoints.get d = some u.endpoint) {content : List UInt8}
    {r : Http.Request} (requested : PackageIndex.request u content = .ok r) : r.url = urls.get d := by
  obtain ⟨_, url, -, target, rfl⟩ := (PackageIndex.request_eq_ok_iff u content r).mp requested
  rw [get_endpoints_publisher] at known
  rw [← Option.some.inj known, h.targets d] at target
  exact (Except.ok.inj target).symm

/-- The pipeline of a run whose requests are written down. -/
abbrev recordedPipeline (cfg : Config) (w : Surroundings σ) (e : Environment) : Pipeline (σ × List Http.Request) :=
  cfg.environmentPipeline (w.inEnvironment e).recorded

/-! ## What a publish sees -/

/-- The contents of the files of a set. -/
def contents (w : Surroundings σ) (set : ArtifactSet) (s : σ) : List (Except OsError (List UInt8)) :=
  set.artifacts.map fun a => (w.files.get s).readBytes w.cwd a.path

/-- No request changes the files of a set. -/
theorem keeps_contents (serve : servers.Serve w) (set : ArtifactSet) (r : Http.Request) : (w.client r).Keeps (contents w set) :=
  (serve.files r).comp fun fs => set.artifacts.map fun a : Artifact => fs.readBytes w.cwd a.path

/-- What a publish to a channel goes by: what the server of the channel holds, and the contents of the files of the set. -/
def seen (servers : Servers σ κ ν) (urls : PerChannel Http.Url) (w : Surroundings σ) (set : ArtifactSet) (d : Channel) (s : σ) :
    ν × List (Except OsError (List UInt8)) :=
  (servers.holds (servers.leads (urls.get d)) s, contents w set s)

/-- A request to a channel, without what it carries for the channel whose token is not to be looked at. -/
def masked (c d : Channel) (r : Http.Request) : Http.Request := if d = c then { r with authorization := none } else r

/-- What a publish to a channel goes by and the requests to the channel so far. -/
def seenBeside (servers : Servers σ κ ν) (urls : PerChannel Http.Url) (w : Surroundings σ) (set : ArtifactSet) (c d : Channel)
    (x : σ × List Http.Request) : (ν × List (Except OsError (List UInt8))) × List Http.Request :=
  (seen servers urls w set d x.1, (requestsTo (urls.get d) x.2).map (masked c d))

/-- A publish changes nothing that the publish to the other channel sees. -/
theorem keeps_seen (h : cfg.DifferInToken servers urls c w e e' trigger s t) (set : ArtifactSet) {d d' : Channel} (other : d' ≠ d)
    (e₁ : Environment) : ((cfg.recordedPipeline w e₁).publishTo set d').Keeps (seenBeside servers urls w set c d) := by
  let v := seenBeside servers urls w set c d
  have refl : ∀ x, (fun x y => v y = v x) x x := fun _ => rfl
  have issues : ((cfg.recordedPipeline w e₁).issuer d').Ensures (fun x y => v y = v x)
      fun answer => ∀ credential, answer = .ok credential → True := fun _ _ => trivial
  refine Pipeline.moves_publishTo (Q := fun x y => v y = v x) refl issues (fun u known _ => ?_) set
  refine PackageIndex.moves_upload (Q := fun x y => v y = v x) refl fun content r requested => ?_
  -- the request goes to the server of `d'`, where nothing is that is seen from `d`
  have url := h.url_eq known requested
  have elsewhere : servers.leads r.url ≠ servers.leads (urls.get d) := by
    rw [url]
    exact h.leads_ne other
  have holds := h.serve.others r _ elsewhere
  have unseen : ¬r.url = urls.get d := fun same => elsewhere (congrArg servers.leads same)
  refine Stepwise.moves_logged (fun x => ?_) (fun x s' kept => ?_) (holds.and (keeps_contents h.serve set r))
  · simp [v, seenBeside, requestsTo, unseen]
  · exact congrArg (·, (requestsTo (urls.get d) x.2).map (masked c d)) kept

/-- The credentials of a channel in two runs: the same, or credentials with the two tokens of the channel in which the runs
differ. -/
def Issued (cfg : Config) (e e' : Environment) (d : Channel) (a b : Credential) : Prop :=
  cfg.environmentIssuer.credential e d = .ok a ∧ cfg.environmentIssuer.credential e' d = .ok b

/-- The credential for the other channel is the same in both runs. -/
theorem DifferInToken.credential_eq (h : cfg.DifferInToken servers urls c w e e' trigger s t) {d : Channel} (other : d ≠ c) :
    cfg.environmentIssuer.credential e d = cfg.environmentIssuer.credential e' d := by
  obtain ⟨_, _, differ, -⟩ := h.tokens
  exact cfg.environmentIssuer.credential_congr (differ.others _ (h.variable_ne other))

theorem DifferInToken.eq_of_issued (h : cfg.DifferInToken servers urls c w e e' trigger s t) {d : Channel} (other : d ≠ c)
    {a b : Credential} (issued : cfg.Issued e e' d a b) : a = b :=
  Except.ok.inj (issued.1.symm.trans ((h.credential_eq other).trans issued.2))

/-- Both credentials are of the channel, and none of them expires. -/
theorem lasting_of_issued {d : Channel} {a b : Credential} (issued : cfg.Issued e e' d a b) :
    a.channel = b.channel ∧ a.expiresAt = none ∧ b.expiresAt = none := by
  obtain ⟨_, -, -, rfl⟩ := (cfg.environmentIssuer.credential_eq_ok_iff e d a).mp issued.1
  obtain ⟨_, -, -, rfl⟩ := (cfg.environmentIssuer.credential_eq_ok_iff e' d b).mp issued.2
  exact ⟨rfl, rfl, rfl⟩

/-- In both runs a credential is issued for a channel, or in both it is not, for the same reason. -/
theorem answered_alike (h : cfg.DifferInToken servers urls c w e e' trigger s t) (d : Channel) :
    Pipeline.AnsweredAlike (cfg.Issued e e' d) (cfg.environmentIssuer.credential e d) (cfg.environmentIssuer.credential e' d) := by
  obtain ⟨token, token', differ, -⟩ := h.tokens
  by_cases same : d = c
  · subst same
    have issued := (cfg.environmentIssuer.credential_eq_ok_iff e d _).mpr ⟨token, differ.holds, differ.filled, rfl⟩
    have issued' := (cfg.environmentIssuer.credential_eq_ok_iff e' d _).mpr ⟨token', differ.holds', differ.filled', rfl⟩
    unfold Issued
    rw [issued, issued']
    exact ⟨rfl, rfl⟩
  · unfold Issued
    rw [← h.credential_eq same]
    cases cfg.environmentIssuer.credential e d with
    | error fault => rfl
    | ok credential => exact ⟨rfl, rfl⟩

/-- Requests with the credentials of a channel in the two runs are answered alike. -/
theorem alike_client (h : cfg.DifferInToken servers urls c w e e' trigger s t) {d : Channel} {a b : Credential}
    (issued : cfg.Issued e e' d a b) {r : Http.Request} (url : r.url = urls.get d)
    (carries : r.authorization = some (.basic a.username a.secret)) :
    Stepwise.Alike (servers.holds (servers.leads (urls.get d))) (servers.holds (servers.leads (urls.get d))) Eq (w.client r)
      (w.client { r with authorization := some (.basic b.username b.secret) }) := by
  by_cases same : d = c
  · subst same
    obtain ⟨first, second⟩ := issued
    obtain ⟨token, token', differ, ignores⟩ := h.tokens
    obtain ⟨_, held, -, rfl⟩ := (cfg.environmentIssuer.credential_eq_ok_iff e d a).mp first
    obtain ⟨_, held', -, rfl⟩ := (cfg.environmentIssuer.credential_eq_ok_iff e' d b).mp second
    obtain rfl := Option.some.inj (held.symm.trans differ.holds)
    obtain rfl := Option.some.inj (held'.symm.trans differ.holds')
    have answered := ignores r ((cfg.environmentIssuer.usernames.get d).getD tokenUsername) (congrArg servers.leads url)
    rw [← carries] at answered
    exact answered
  · rw [← h.eq_of_issued same issued, ← carries, ← url]
    exact h.serve.answers r

/-- No more is seen of the requests in the one run than in the other one. -/
theorem masked_eq (h : cfg.DifferInToken servers urls c w e e' trigger s t) {d : Channel} {a b : Credential}
    (issued : cfg.Issued e e' d a b) {r : Http.Request} (carries : r.authorization = some (.basic a.username a.secret)) :
    masked c d r = masked c d { r with authorization := some (.basic b.username b.secret) } := by
  by_cases same : d = c
  · simp only [masked, if_pos same]
  · rw [← h.eq_of_issued same issued, ← carries]

/-- The publishes to a channel in the two runs go in step. -/
theorem alike_publishTo (h : cfg.DifferInToken servers urls c w e e' trigger s t) (set : ArtifactSet) (d : Channel) :
    Stepwise.Alike (seenBeside servers urls w set c d) (seenBeside servers urls w set c d) (fun x y => x.1 = y.1)
      ((cfg.recordedPipeline w e).publishTo set d) ((cfg.recordedPipeline w e').publishTo set d) := by
  let v := seenBeside servers urls w set c d
  have endpoint : (cfg.recordedPipeline w e).publisher.endpoints.get d = (cfg.recordedPipeline w e').publisher.endpoints.get d :=
    rfl
  have idempotent : (cfg.recordedPipeline w e).idempotent.get d = (cfg.recordedPipeline w e').idempotent.get d := rfl
  have issues : Stepwise.Alike v v (Pipeline.AnsweredAlike (cfg.Issued e e' d)) ((cfg.recordedPipeline w e).issuer d)
      ((cfg.recordedPipeline w e').issuer d) := .done (answered_alike h d)
  refine Pipeline.alike_publishTo endpoint idempotent issues (fun _ _ => lasting_of_issued) ?_
  intro endpoint a b known issued artifact inSet
  let u : Upload := ⟨endpoint, set, artifact, a⟩
  refine PackageIndex.alike_upload u (lasting_of_issued issued).1.symm (fun x y same => ?_) fun content r requested => ?_
  · have read := congrArg (fun v => v.1.2) same
    exact List.map_inj_left.mp read artifact inSet
  · have url : r.url = urls.get d := h.url_eq (u := u) known requested
    have carries : r.authorization = some (.basic a.username a.secret) := by
      obtain ⟨_, _, -, -, rfl⟩ := (PackageIndex.request_eq_ok_iff u content r).mp requested
      rfl
    have alike := (alike_client h issued url carries).and_kept (keeps_contents h.serve set _) (keeps_contents h.serve set _)
    refine Stepwise.alike_logged (g := fun log => (requestsTo (urls.get d) log).map (masked c d)) alike fun log log' same => ?_
    simp only [requestsTo, List.filter_append, List.map_append] at same ⊢
    rw [same]
    simp [url, masked_eq h issued carries]

/-! ## Two runs -/

/-- No server notices a run before its publishes. -/
theorem holds_of_prepare (serve : servers.Serve w) {id : RunId} {s s' : σ} {r : Except Progress Pipeline.Prepared}
    (prepared : (cfg.environmentPipeline (w.inEnvironment e)).prepare id trigger s = (r, s')) (k : κ) :
    servers.holds k s' = servers.holds k s :=
  Pipeline.prepare_keeps (fun s => serve.remote k s _) (fun _ s => serve.remote k s _) prepared

/-- Where both runs come to the same set, the publishes to each channel start out from the same. -/
theorem seen_eq (h : cfg.DifferInToken servers urls c w e e' trigger s t) {id id' : RunId} {set : ArtifactSet} {s' t' : σ}
    {r r' : Except Progress Pipeline.Prepared}
    (prepared : (cfg.environmentPipeline (w.inEnvironment e)).prepare id trigger s = (r, s'))
    (prepared' : (cfg.environmentPipeline (w.inEnvironment e')).prepare id' trigger t = (r', t'))
    (read : ∀ a ∈ set.artifacts, (w.files.get s').readBytes w.cwd a.path = (w.files.get t').readBytes w.cwd a.path)
    (d : Channel) : seen servers urls w set d s' = seen servers urls w set d t' := by
  let k := servers.leads (urls.get d)
  have holds := ((holds_of_prepare h.serve prepared k).trans (h.start k)).trans (holds_of_prepare h.serve prepared' k).symm
  exact Prod.ext holds (List.map_inj_left.mpr read)

/-- Both runs report and tell the same, and send the same requests but for the token in which they differ. -/
theorem same_of_sends (h : cfg.DifferInToken servers urls c w e e' trigger s t) {id id' : RunId}
    {requests requests' : List Http.Request} {progress progress' : Progress}
    (run : cfg.Sends (w.inEnvironment e) id trigger s requests progress)
    (run' : cfg.Sends (w.inEnvironment e') id' trigger t requests' progress') :
    progress.SameUpToTimes progress' ∧
      ∀ d, (requestsTo (urls.get d) requests).map (masked c d) = (requestsTo (urls.get d) requests').map (masked c d) := by
  obtain ⟨p, published, s', made, ends⟩ := run
  obtain ⟨q, published', t', made', ends'⟩ := run'
  rw [pipeline_of_env h.mode] at made made'
  obtain rfl := Except.ok.inj made
  obtain rfl := Except.ok.inj made'
  have prepares := h.prepares _ _ (pipeline_of_env h.mode _) (pipeline_of_env h.mode _)
  have records := cfg.records_recorded (w.inEnvironment e)
  have records' := cfg.records_recorded (w.inEnvironment e')
  cases ends with
  | aborted prepared =>
    obtain ⟨reached, nothing⟩ := records.prepare_of prepared
    cases ends' with
    | aborted prepared' =>
      obtain ⟨reached', nothing'⟩ := records'.prepare_of prepared'
      cases Pipeline.prepare_alike prepares reached reached' with
      | aborted same =>
        obtain rfl : requests = requests' := nothing.trans nothing'.symm
        exact ⟨same, fun _ => rfl⟩
    | concluded prepared' done' => cases Pipeline.prepare_alike prepares reached (records'.prepare_of prepared').1
  | @concluded a _ x _ prepared done =>
    obtain ⟨reached, nothing⟩ := records.prepare_of prepared
    cases ends' with
    | aborted prepared' => cases Pipeline.prepare_alike prepares reached (records'.prepare_of prepared').1
    | @concluded b _ y _ prepared' done' =>
      obtain ⟨reached', nothing'⟩ := records'.prepare_of prepared'
      cases Pipeline.prepare_alike prepares reached reached' with
      | reached set decision report events read =>
        rw [← set, ← decision] at done'
        have start : ∀ d, seenBeside servers urls w a.set c d x = seenBeside servers urls w a.set c d y := by
          intro d
          unfold seenBeside
          rw [seen_eq h reached reached' read d, nothing, nothing']
        obtain ⟨outcomes, after⟩ := Pipeline.Published.alike (alike_publishTo h a.set)
          (fun d d' other => ⟨keeps_seen h a.set other e, keeps_seen h a.set other e'⟩) done done' start
        exact ⟨Pipeline.sameUpToTimes_conclude report events outcomes _ _, fun d => congrArg Prod.snd (after d)⟩

/-- What came of two runs that differ in the token of one channel, as far as the other channel is concerned. -/
structure Apart (cfg : Config) (urls : PerChannel Http.Url) (e : Environment) (d : Channel)
    (requests requests' : List Http.Request) : Prop where
  same : requestsTo (urls.get d) requests = requestsTo (urls.get d) requests'
  carry : ∀ r ∈ requestsTo (urls.get d) requests, cfg.CarriesToken e d r

/-- The other channel is sent the same in both runs, and its own token. -/
theorem apart_of_sends (h : cfg.DifferInToken servers urls c w e e' trigger s t) {id id' : RunId}
    {requests requests' : List Http.Request} {progress progress' : Progress}
    (run : cfg.Sends (w.inEnvironment e) id trigger s requests progress)
    (run' : cfg.Sends (w.inEnvironment e') id' trigger t requests' progress') {d : Channel} (other : d ≠ c) :
    cfg.Apart urls e d requests requests' := by
  refine ⟨?_, fun r hr => ?_⟩
  · have unmasked : masked c d = fun r => r := funext fun r => if_neg other
    have same := (same_of_sends h run run').2 d
    rw [unmasked, List.map_id', List.map_id'] at same
    exact same
  · obtain ⟨sentBy, url⟩ := List.mem_filter.mp hr
    obtain ⟨d', carries⟩ := carriesToken_of_sends h.mode run r sentBy
    have here : urls.get d' = urls.get d := by
      rw [← of_decide_eq_true url]
      exact Except.ok.inj ((h.targets d').symm.trans carries.url)
    obtain rfl : d' = d := Classical.byContradiction fun elsewhere => h.leads_ne elsewhere (congrArg servers.leads here)
    exact carries

/-- The token of a channel has no influence on the other channel. What is sent is known for the ends of every run, and for nothing
else; and any two runs that differ in the token alone report and tell the same, and send the same to the other channel. -/
theorem secrets_apart (h : cfg.DifferInToken servers urls c w e e' trigger s t) (id id' : RunId) :
    (∀ (e₁ : Environment) (i : RunId) (s₁ : σ) (progress : Progress),
        (∃ requests, cfg.Sends (w.inEnvironment e₁) i trigger s₁ requests progress) ↔
          ∃ p published s', cfg.pipeline (w.inEnvironment e₁) = .ok p ∧ p.Ends i trigger s₁ published progress s') ∧
      ∀ requests requests' progress progress',
        cfg.Sends (w.inEnvironment e) id trigger s requests progress →
          cfg.Sends (w.inEnvironment e') id' trigger t requests' progress' →
            progress.SameUpToTimes progress' ∧ ∀ d, d ≠ c → cfg.Apart urls e d requests requests' := by
  refine ⟨fun e₁ i s₁ progress => exists_sends_iff h.mode _ i trigger s₁ progress, ?_⟩
  intro requests requests' progress progress' run run'
  exact ⟨(same_of_sends h run run').1, fun d other => apart_of_sends h run run' other⟩

end Config

/-! ## Two servers -/

namespace Widget

/-- Files, and what two servers have been sent: the hosts of the requests, in the order in which they came. -/
structure Traffic where
  files : FileSystem
  sent : List String := []

/-- The servers of a place with traffic, each of which holds what was sent to its host. -/
def hosts : Servers Traffic String (List String) where
  leads := Http.Url.host
  holds host x := x.sent.filter (· = host)

/-- A place where the widget can be built, and where every request is granted. -/
def workshop : Surroundings Traffic where
  cwd := []
  environment := []
  commands _ _ fs := (.ended (.code 0) [] [], fs.put ["dist", "v1.2.0", fileName] (.file bytes true))
  client r := Stepwise.atomic fun x => (.ok ⟨200, []⟩, { x with sent := x.sent ++ [r.url.host] })
  files := ⟨Traffic.files, fun x files => { x with files }⟩
  clock _ := .epoch

/-- The configuration of the widget, with the builder that packs it. -/
def packedConfig : Config :=
  { repository := { canonical := "acme/widget" }
    build := { command := ["pack"], outputRoot := ⟨"dist"⟩, versionVariable := "WIDGET_VERSION" }
    package := { name := "widget", summary := "A widget", readme := some ⟨"README.txt"⟩, contentType := "text/plain" }
    channels := ⟨{ url := "https://test.pypi.org/legacy/" }, { url := "https://upload.pypi.org/legacy/" }⟩
    baseDir := ⟨"/"⟩ }

/-- The URLs of its channels. -/
def urls : PerChannel Http.Url where
  staging := { secure := true, host := "test.pypi.org", portNumber := none, path := ["legacy", ""], query := none, mark := none }
  production := productionUrl

/-- The tokens of both channels. -/
def tokensWith (production : String) : Environment :=
  [("SHIPGATE_STAGING_TOKEN", "pypi-staging"), ("SHIPGATE_PRODUCTION_TOKEN", production)]

theorem holds_send (host : String) (x : Traffic) (r : Http.Request) :
    hosts.holds host { x with sent := x.sent ++ [r.url.host] } =
      if r.url.host = host then hosts.holds host x ++ [host] else hosts.holds host x := by
  by_cases here : r.url.host = host <;> simp [hosts, here]

/-- What a host answers and holds depends on no more of a request than that it is one. -/
theorem alike_send {r r' : Http.Request} {host : String} (here : r.url.host = host) (here' : r'.url.host = host) :
    Stepwise.Alike (hosts.holds host) (hosts.holds host) Eq (workshop.client r) (workshop.client r') := by
  refine Stepwise.alike_atomic fun x y same => ⟨rfl, ?_⟩
  rw [holds_send, holds_send, if_pos here, if_pos here', same]

theorem serve_hosts : hosts.Serve workshop where
  answers _ := alike_send rfl rfl
  others r host elsewhere := Stepwise.moves_atomic fun x => (holds_send host x r).trans (if_neg elsewhere)
  files _ := Stepwise.moves_atomic fun _ => rfl
  remote _ _ _ := rfl

theorem differIn_tokens (production production' : String) (filled : Text.isBlankText production = false)
    (filled' : Text.isBlankText production' = false) :
    Environment.DifferIn "SHIPGATE_PRODUCTION_TOKEN" production production' (tokensWith production) (tokensWith production') where
  holds := rfl
  holds' := rfl
  filled := filled
  filled' := filled'
  others name other := by
    simp [tokensWith, List.lookup_cons, beq_false_of_ne other]

/-- What is built in the workshop does not depend on the tokens. -/
theorem preparesAlike (e e' : Environment) (trigger : Trigger) (s : Traffic) :
    (packedConfig.environmentPipeline (workshop.inEnvironment e)).PreparesAlike
      (packedConfig.environmentPipeline (workshop.inEnvironment e')) trigger s s where
  policy := rfl
  source := rfl
  builds _ _ _ _ := ⟨rfl, fun _ _ _ _ => rfl⟩

/-- Two releases of the widget with different tokens for production. -/
theorem differInToken :
    packedConfig.DifferInToken hosts urls .production workshop (tokensWith "pypi-old") (tokensWith " pypi-new\n") release
      { files := tree } { files := tree } where
  valid := rfl
  mode := rfl
  targets d := by cases d <;> rfl
  different := by decide
  serve := serve_hosts
  tokens := ⟨_, _, differIn_tokens _ _ (by decide) (by decide), fun _ _ here => alike_send here here⟩
  start _ := rfl
  prepares p q made made' := by
    rw [Config.pipeline_of_env rfl] at made made'
    obtain rfl := Except.ok.inj made
    obtain rfl := Except.ok.inj made'
    exact preparesAlike _ _ _ _

/-- The widget is built there, and passes. -/
theorem built_workshop (e : Environment) :
    ∃ set after, (packedConfig.environmentPipeline (workshop.inEnvironment e)).Built release { files := tree } context version set
        { files := after } ∧
      (packedConfig.environmentPipeline (workshop.inEnvironment e)).verdictOn set { files := after } = .pass := by
  obtain ⟨set, after, collected, passed⟩ := Builder.collect_passes leavesFiles_packed (longDescription_eq rfl) filledIn_described
    wellMarked_described
  have made : packedConfig.builder.build workshop.commands [] e version tree = (.ok set, after) := by
    have same : packedConfig.builder = builder := rfl
    rw [same]
    unfold Builder.build
    simp only [Builder.clear_eq_ok_iff.mp clear_tree]
    exact collected
  have resolved : ∀ source : Traffic → Except Failure String × Traffic,
      Resolver.resolve source context { files := tree } = (.ok version, { files := tree }) := by
    have known := built.resolved
    have tag : context.tagName? = some "v1.2.0" := by decide +kernel
    intro source
    unfold Resolver.resolve at known ⊢
    rw [tag] at known ⊢
    exact Prod.ext known rfl
  refine ⟨set, after, ⟨classify_release, congrArg Prod.fst (resolved _), ?_⟩, passed⟩
  have builds : (packedConfig.environmentPipeline (workshop.inEnvironment e)).builder version { files := tree } =
      ((packedConfig.builder.build workshop.commands [] e version tree).1,
        { files := (packedConfig.builder.build workshop.commands [] e version tree).2 }) := rfl
  rw [resolved, builds, made]

/-- A publish in the workshop sends the files of its set, one after another. -/
theorem sent_publishTo {e : Environment} {c : Channel} {credential : Credential}
    (issued : packedConfig.environmentIssuer.credential e c = .ok credential) {set : ArtifactSet} {after : FileSystem}
    (passed : Verifier.verify after [] set = .pass) :
    ∃ d contents, (((packedConfig.recordedPipeline workshop e).publishTo set c).run ({ files := after }, [])).2.2 =
      set.artifacts.map (PackageIndex.requestFor (urls.get c) set d credential contents) := by
  let p := packedConfig.recordedPipeline workshop e
  let x : Traffic × List Http.Request := ({ files := after }, [])
  let index : PackageIndex (Traffic × List Http.Request) :=
    { client := (workshop.inEnvironment e).recorded.client, contentAt := fun x path => x.1.files.readBytes [] path }
  obtain ⟨d, descriptor, -⟩ : Verifier.Sound after [] set .descriptor := (Verifier.verify_eq_pass_iff _ _ _).mp passed .descriptor
  have sound : Verifier.ContentsSound after [] set := (Verifier.verify_eq_pass_iff _ _ _).mp passed .contents
  let contents (path : Path) : List UInt8 := (after.readBytes [] path).toOption.getD []
  have readable : ∀ a ∈ set.artifacts ++ [], index.contentAt x a.path = .ok (contents a.path) := by
    intro a ha
    rw [List.append_nil] at ha
    obtain ⟨bytes, read, -⟩ := sound.unchanged a ha
    show after.readBytes [] a.path = .ok ((after.readBytes [] a.path).toOption.getD [])
    rw [read]
    rfl
  have delivers : index.Delivers Prod.snd fun _ => ⟨200, []⟩ := ⟨fun _ _ => rfl, fun _ _ => rfl, fun _ _ => rfl⟩
  have goesOn : ∀ k < set.artifacts.length, ¬PackageIndex.Stops true ⟨200, []⟩ := fun _ _ stops => stops.1 ⟨by decide, by decide⟩
  have target : Http.target (packedConfig.channels.get c).url = .ok (urls.get c) := differInToken.targets c
  obtain ⟨y, created, whole, sent, -, -⟩ :=
    PackageIndex.run_uploads_append c credential delivers descriptor target [] false readable goesOn
  rw [List.append_nil] at whole
  have admitted : p.publisher.admission (p.publisher.clock x) c set credential = .ok (packedConfig.channels.get c).url := by
    obtain ⟨_, -, -, rfl⟩ := (packedConfig.environmentIssuer.credential_eq_ok_iff e c credential).mp issued
    exact (p.publisher.admission_eq_ok_iff _ c set _ _).mpr
      ⟨rfl, rfl, Config.get_endpoints_publisher _ _ c, List.isEmpty_eq_false_iff.mpr sound.inhabited⟩
  have asked : (p.issuer c).run x = (.ok credential, x) := congrArg (·, x) issued
  have idempotent : p.idempotent.get c = true := by cases c <;> rfl
  have published : ((p.publisher.publish c set credential true).run x).2 = y := by
    rw [Publisher.run_publish, Publisher.run_tryPublish, admitted]
    exact congrArg Prod.snd whole
  refine ⟨d, contents, ?_⟩
  show ((p.publishTo set c).run x).2.2 = _
  unfold Pipeline.publishTo
  simp only [Stepwise.run_bind, Stepwise.run_observe, asked, idempotent, published]
  exact sent

/-- A release from the workshop is for both channels, and staging is sent something. -/
theorem exists_sends (production : String) :
    ∃ requests progress,
      packedConfig.Sends (workshop.inEnvironment (tokensWith production)) runId release { files := tree } requests progress ∧
        progress.report.decision = some .stagingAndProduction ∧ Config.requestsTo urls.staging requests ≠ [] := by
  let e := tokensWith production
  let q := packedConfig.recordedPipeline workshop e
  have records := packedConfig.records_recorded (workshop.inEnvironment e)
  obtain ⟨set, after, built, passed⟩ := built_workshop e
  have decided : (packedConfig.environmentPipeline (workshop.inEnvironment e)).decisionOn context set { files := after } =
      .stagingAndProduction := by
    unfold Pipeline.decisionOn
    rw [passed]
    rfl
  have reached := records.prepare_eq runId release ({ files := tree }, [])
  rw [Pipeline.prepare_of_built built runId] at reached
  have done := Pipeline.published_publishAll q set
    ((packedConfig.environmentPipeline (workshop.inEnvironment e)).decisionOn context set { files := after }) ({ files := after }, [])
  have ends := Pipeline.Ends.concluded reached done
  obtain ⟨-, concluded, -⟩ := Pipeline.concluded_of_ends built (records.ends_of ends)
  refine ⟨_, _, ⟨q, _, _, Config.pipeline_of_env rfl _, ends⟩, concluded.decision.trans (congrArg some decided), ?_⟩
  -- the files go to staging first, and what goes to production is added to that
  have channels : Decision.stagingAndProduction.channels = [.staging, .production] := rfl
  rw [decided, channels, Pipeline.run_publishAll_cons, Pipeline.run_publishAll_cons]
  let credential : Credential := { channel := .staging, secret := Text.trimmed "pypi-staging" }
  have issued : packedConfig.environmentIssuer.credential e .staging = .ok credential :=
    (packedConfig.environmentIssuer.credential_eq_ok_iff e .staging credential).mpr ⟨"pypi-staging", rfl, by decide, rfl⟩
  have verified : Verifier.verify after [] set = .pass := passed
  obtain ⟨d, contents, sent⟩ := sent_publishTo issued verified
  obtain ⟨new, adds, -⟩ := (packedConfig.adds_publishTo (workshop.inEnvironment e) set .production).run .refl .trans
    ((q.publishTo set .staging).run ({ files := after }, [])).2
  have sound : Verifier.ContentsSound after [] set := (Verifier.verify_eq_pass_iff _ _ _).mp verified .contents
  obtain ⟨a, ha⟩ := List.exists_mem_of_ne_nil _ sound.inhabited
  have first : PackageIndex.requestFor urls.staging set d credential contents a ∈
      ((q.publishTo set .production).run ((q.publishTo set .staging).run ({ files := after }, [])).2).2.2 := by
    rw [adds, sent]
    exact List.mem_append_left _ (List.mem_map_of_mem ha)
  exact List.ne_nil_of_mem (List.mem_filter.mpr ⟨first, decide_eq_true rfl⟩)

/-- Two releases of the widget, with an old token for production and with a new one. Both are for both channels; staging is sent
something, and the same in both, and they report and tell the same. -/
theorem secrets_apart_release :
    ∃ requests requests' progress progress',
      packedConfig.Sends (workshop.inEnvironment (tokensWith "pypi-old")) runId release { files := tree } requests progress ∧
        packedConfig.Sends (workshop.inEnvironment (tokensWith " pypi-new\n")) runId release { files := tree } requests' progress' ∧
        progress.report.decision = some .stagingAndProduction ∧ Config.requestsTo urls.staging requests ≠ [] ∧
        progress.SameUpToTimes progress' ∧ packedConfig.Apart urls (tokensWith "pypi-old") .staging requests requests' := by
  obtain ⟨requests, progress, sends, decided, sent⟩ := exists_sends "pypi-old"
  obtain ⟨requests', progress', sends', -⟩ := exists_sends " pypi-new\n"
  obtain ⟨-, every⟩ := Config.secrets_apart differInToken runId runId
  obtain ⟨told, apart⟩ := every requests requests' progress progress' sends sends'
  exact ⟨requests, requests', progress, progress', sends, sends', decided, sent, told, apart .staging (by decide)⟩

end Widget

end ReleaseGate
