import ReleaseGate.Proofs.Gate.Eligibility
import ReleaseGate.Proofs.Run.Recording
import ReleaseGate.Proofs.Run.Records
import ReleaseGate.Proofs.Verification.Families

/-!
# What a run calls

A run reaches the outside in two ways: it asks for credentials, and it uploads. `recorded` is a pipeline that does what another one
does and writes down each of these calls before it is made. What stands in that log at the end is what `Accounted` says: a channel
is called only when the very set that is uploaded passed verification and the trigger opens the channel, and then its credential is
asked for once.
-/

namespace ReleaseGate

/-- A call that a run makes. -/
inductive Call where
  /-- The credential for a channel is asked for. -/
  | credential (channel : Channel)
  /-- An artifact is uploaded, or an attempt is made. -/
  | upload (upload : Upload)

namespace Call

/-- The channel that a call is for. -/
def channel : Call → Channel
  | .credential c => c
  | .upload u => u.credential.channel

/-- The channel whose credential a call asks for. -/
def asked? : Call → Option Channel
  | .credential c => some c
  | .upload _ => none

end Call

namespace Pipeline

variable {σ : Type}

/-! ## Writing calls down -/

/-- A pipeline that writes down what it calls, beside the state in which it works. -/
def recorded (p : Pipeline σ) : Pipeline (σ × List Call) where
  policy := p.policy
  source x := ((p.source x.1).1, (p.source x.1).2, x.2)
  builder version x := ((p.builder version x.1).1, (p.builder version x.1).2, x.2)
  issuer c := Stepwise.logged (.credential c) (p.issuer c)
  publisher :=
    { registry := fun u => Stepwise.logged (.upload u) (p.publisher.registry u)
      endpoints := p.publisher.endpoints
      clock := fun x => p.publisher.clock x.1 }
  idempotent := p.idempotent
  files x := p.files x.1
  cwd := p.cwd

/-- To write calls down changes nothing else. -/
theorem records_recorded (p : Pipeline σ) : p.recorded.Records p where
  policy := rfl
  source := rfl
  builder := rfl
  issuer _ := Stepwise.shadows_logged _ _
  registry _ := Stepwise.shadows_logged _ _
  endpoints := rfl
  clock := rfl
  idempotent := rfl
  files := rfl
  cwd := rfl

/-! ## What is written down -/

/-- An upload takes an artifact of a set to the endpoint of the channel whose credential it carries. -/
structure Carries (p : Pipeline σ) (built : ArtifactSet) (u : Upload) : Prop where
  set : u.set = built
  artifact : u.artifact ∈ built.artifacts
  endpoint : p.publisher.endpoints.get u.credential.channel = some u.endpoint

/-- Uploads of artifacts of a set, each to the endpoint of a channel with a credential of that channel. -/
def Uploads (p : Pipeline σ) (built : ArtifactSet) (c : Channel) (calls : List Call) : Prop :=
  ∃ uploads : List Upload, calls = uploads.map .upload ∧ ∀ u ∈ uploads, u.credential.channel = c ∧ p.Carries built u

/-- The calls of a publish to a channel: its credential is asked for first, and then artifacts are uploaded with it. -/
def Publishes (p : Pipeline σ) (built : ArtifactSet) (c : Channel) (calls : List Call) : Prop :=
  ∃ uploads, calls = .credential c :: uploads ∧ p.Uploads built c uploads

/-- The artifacts that are uploaded are the first of those that are given, one call for each. -/
theorem logs_uploadAll {upload : Artifact → Stepwise (σ × List Call) (Except PublishError UploadResponse)}
    {uploadOf : Artifact → Upload} (h : ∀ a, (upload a).Logs fun _ new => new = [.upload (uploadOf a)])
    (c : Channel) (idempotent : Bool) (artifacts : List Artifact) (created : Bool) :
    (Publisher.uploadAll upload c idempotent created artifacts).Logs fun _ new =>
      ∃ uploaded, uploaded <+: artifacts ∧ new = uploaded.map fun a => Call.upload (uploadOf a) := by
  induction artifacts generalizing created with
  | nil => exact ⟨[], List.nil_prefix, rfl⟩
  | cons a rest ih =>
    refine (h a).bind fun answer new first => ?_
    subst first
    have stop : ∃ uploaded, uploaded <+: a :: rest ∧
        [Call.upload (uploadOf a)] ++ [] = uploaded.map fun a => Call.upload (uploadOf a) :=
      ⟨[a], List.prefix_append [a] rest, rfl⟩
    have goOn : ∀ created, (Publisher.uploadAll upload c idempotent created rest).Logs fun _ more =>
        ∃ uploaded, uploaded <+: a :: rest ∧
          [Call.upload (uploadOf a)] ++ more = uploaded.map fun a => Call.upload (uploadOf a) := by
      intro created
      refine (ih created).mono fun _ more later => ?_
      obtain ⟨uploaded, begins, rfl⟩ := later
      exact ⟨a :: uploaded, List.cons_prefix_cons.mpr ⟨rfl, begins⟩, rfl⟩
    cases answer with
    | error e => exact stop
    | ok response =>
      cases response with
      | created => exact goOn true
      | alreadyExists =>
        cases idempotent with
        | true => exact goOn created
        | false => exact stop

/-- What a publish with a credential calls. A credential of another channel is not used. -/
theorem logs_publish (p : Pipeline σ) (c : Channel) (built : ArtifactSet) (credential : Credential) (idempotent : Bool) :
    (p.recorded.publisher.publish c built credential idempotent).Logs fun _ new => p.Uploads built c new := by
  refine Stepwise.Logs.bind_silent ?_ fun answer => Stepwise.isSilent_pure _
  refine (Stepwise.isSilent_observe _).bind fun now => ?_
  rw [p.records_recorded.admission_eq]
  cases admitted : p.publisher.admission now c built credential with
  | error e => exact (Stepwise.isSilent_pure _).mono fun _ new nothing => ⟨[], nothing, List.forall_mem_nil _⟩
  | ok endpoint =>
    obtain ⟨scope, -, known, -⟩ := (p.publisher.admission_eq_ok_iff now c built credential endpoint).mp admitted
    let uploadOf : Artifact → Upload := fun artifact => { endpoint, set := built, artifact, credential }
    have each := logs_uploadAll (fun a => Stepwise.logs_logged (Call.upload (uploadOf a)) (p.publisher.registry (uploadOf a)))
      c idempotent built.artifacts false
    refine each.mono fun _ new uploads => ?_
    obtain ⟨uploaded, begins, rfl⟩ := uploads
    refine ⟨uploaded.map uploadOf, (List.map_map).symm, fun u hu => ?_⟩
    obtain ⟨a, ha, rfl⟩ := List.mem_map.mp hu
    refine ⟨scope, rfl, begins.subset ha, ?_⟩
    show p.publisher.endpoints.get credential.channel = some endpoint
    rw [scope, known]

/-- What a publish to a channel calls. -/
theorem logs_publishTo (p : Pipeline σ) (built : ArtifactSet) (c : Channel) :
    (p.recorded.publishTo built c).Logs fun _ new => p.Publishes built c new := by
  refine (Stepwise.isSilent_observe _).bind fun start => ?_
  refine (Stepwise.logs_logged (Call.credential c) (p.issuer c)).bind fun answer new first => ?_
  subst first
  have finish : ∀ outcome : Outcome,
      (Stepwise.observe p.recorded.now >>= fun finish =>
        (pure (outcome, finish.millisecondsSince start) : Stepwise _ _)).IsSilent :=
    fun outcome => (Stepwise.isSilent_observe _).bind fun finish => Stepwise.isSilent_pure _
  cases answer with
  | error e => exact (finish (e.toOutcome c)).mono fun _ more nothing => ⟨more, rfl, [], nothing, List.forall_mem_nil _⟩
  | ok credential =>
    refine ((logs_publish p c built credential _).bind_silent finish).mono fun _ more uploads => ?_
    exact ⟨more, rfl, uploads⟩

theorem Publishes.channel_eq {p : Pipeline σ} {built : ArtifactSet} {c : Channel} {calls : List Call}
    (h : p.Publishes built c calls) : ∀ call ∈ calls, call.channel = c := by
  obtain ⟨_, rfl, uploads, rfl, each⟩ := h
  intro call hc
  rcases List.mem_cons.mp hc with rfl | hc
  · rfl
  · obtain ⟨u, hu, rfl⟩ := List.mem_map.mp hc
    exact (each u hu).1

theorem Publishes.carries {p : Pipeline σ} {built : ArtifactSet} {c : Channel} {calls : List Call}
    (h : p.Publishes built c calls) : ∀ u, .upload u ∈ calls → p.Carries built u := by
  obtain ⟨_, rfl, uploads, rfl, each⟩ := h
  intro u hu
  rcases List.mem_cons.mp hu with same | hu
  · cases same
  · obtain ⟨v, hv, same⟩ := List.mem_map.mp hu
    obtain rfl := Call.upload.inj same
    exact (each v hv).2

/-- A publish asks for one credential, that of its channel. -/
theorem Publishes.asked {p : Pipeline σ} {built : ArtifactSet} {c : Channel} {calls : List Call}
    (h : p.Publishes built c calls) : calls.filterMap Call.asked? = [c] := by
  obtain ⟨_, rfl, uploads, rfl, -⟩ := h
  have later : (uploads.map Call.upload).filterMap Call.asked? = [] := by
    rw [List.filterMap_map, List.filterMap_eq_nil_iff]
    exact fun u _ => rfl
  show c :: (uploads.map Call.upload).filterMap Call.asked? = [c]
  rw [later]

/-- The calls of a run whose decision is made: none for a channel that is closed, and one for the credential of each channel that
is open. -/
structure Authorized (p : Pipeline σ) (built : ArtifactSet) (d : Decision) (calls : List Call) : Prop where
  allowed : ∀ call ∈ calls, d.allows call.channel = true
  carries : ∀ u, .upload u ∈ calls → p.Carries built u
  once : ∀ c, d.allows c = true → (calls.filterMap Call.asked?).count c = 1

theorem authorized_staging {p : Pipeline σ} {built : ArtifactSet} {calls : List Call} (h : p.Publishes built .staging calls) :
    p.Authorized built .stagingOnly calls := by
  refine ⟨fun call hc => ?_, h.carries, fun c allowed => ?_⟩
  · rw [h.channel_eq call hc]
    rfl
  · rw [h.asked]
    cases c with
    | staging => rfl
    | production => cases allowed

/-- The calls of two publishes may come in any order. -/
theorem authorized_both {p : Pipeline σ} {built : ArtifactSet} {staging production calls : List Call}
    (hs : p.Publishes built .staging staging) (hp : p.Publishes built .production production)
    (order : calls.Perm (staging ++ production)) : p.Authorized built .stagingAndProduction calls := by
  refine ⟨fun call _ => rfl, fun u hu => ?_, fun c _ => ?_⟩
  · rcases List.mem_append.mp (order.mem_iff.mp hu) with hu | hu
    · exact hs.carries u hu
    · exact hp.carries u hu
  · have asked : (calls.filterMap Call.asked?).Perm [.staging, .production] := by
      have same := order.filterMap Call.asked?
      rw [List.filterMap_append, hs.asked, hp.asked] at same
      exact same
    rw [asked.count_eq]
    cases c <;> rfl

/-- What the publishes of a decision add to the log. -/
theorem authorized_of_published {p : Pipeline σ} {built : ArtifactSet} {d : Decision} {x y : σ × List Call}
    {published : List (Channel × Outcome × UInt64)} (h : p.recorded.Published built d x published y) :
    ∃ new, y.2 = x.2 ++ new ∧ p.Authorized built d new := by
  cases h with
  | nowhere => exact ⟨[], (List.append_nil _).symm, List.forall_mem_nil _, fun u hu => absurd hu List.not_mem_nil, nofun⟩
  | staging =>
    obtain ⟨new, adds, calls⟩ := (logs_publishTo p built .staging).run x
    exact ⟨new, adds, authorized_staging calls⟩
  | both h =>
    obtain ⟨new, staging, production, adds, order, hs, hp⟩ :=
      Stepwise.logs_interleaving h (logs_publishTo p built .staging) (logs_publishTo p built .production)
    exact ⟨new, adds, authorized_both hs hp order⟩

/-! ## Promotion safety -/

/-- A run opens a channel with a set: the set is what was built, it passed verification, and the trigger is a release of the
version, or the channel is staging and the trigger is a push to the trunk. -/
structure Opens (p : Pipeline σ) (t : Trigger) (s : σ) (c : Channel) (context : RunContext) (version : Version)
    (set : ArtifactSet) (s₂ : σ) : Prop where
  built : p.Built t s context version set s₂
  verified : Verifier.verify (p.files s₂) p.cwd set = .pass
  trigger : context.IsReleaseOf version ∨ c = .staging ∧ context.IsTrunkPush p.policy

theorem allows_decisionOn_iff {p : Pipeline σ} {t : Trigger} {s s₂ : σ} {context : RunContext} {version : Version}
    {set : ArtifactSet} (built : p.Built t s context version set s₂) (c : Channel) :
    (p.decisionOn context set s₂).allows c = true ↔ p.Opens t s c context version set s₂ := by
  have bare := Trigger.trimmed_gitRef_of_classify built.classified
  unfold decisionOn
  rw [GatePolicy.allows_decision, GatePolicy.allows_eligibility_iff, ← RunContext.isTrunkPush_iff bare]
  constructor
  · rintro ⟨verified, release | trunk⟩
    · exact ⟨built, verified, .inl (RunContext.isReleaseOf built.classified built.resolved release)⟩
    · exact ⟨built, verified, .inr trunk⟩
  · rintro ⟨-, verified, release | trunk⟩
    · exact ⟨verified, .inl release.event⟩
    · exact ⟨verified, .inr trunk⟩

/-- The calls of a run are accounted for, together with its report. -/
structure Accounted (p : Pipeline σ) (t : Trigger) (s : σ) (r : RunReport) (calls : List Call) : Prop where
  /-- Every call is for a channel that the run opens, and the report says with which context and version. -/
  opened : ∀ call ∈ calls, ∃ context version set s₂, p.Opens t s call.channel context version set s₂ ∧
    r.context = some context ∧ r.version = some version ∧ r.verdict = some .pass
  /-- Every upload is one of the set with which its channel was opened. -/
  uploads : ∀ u, .upload u ∈ calls →
    p.Carries u.set u ∧ ∃ context version s₂, p.Opens t s u.credential.channel context version u.set s₂
  /-- The credential of a channel that the run opens is asked for once. -/
  once : ∀ c context version set s₂, p.Opens t s c context version set s₂ → (calls.filterMap Call.asked?).count c = 1
  /-- A run that opens no channel calls nothing. -/
  nothing : (∀ c context version set s₂, ¬p.Opens t s c context version set s₂) → calls = []

/-- A run that one of its first tasks ended opens no channel. -/
theorem accounted_nil {p : Pipeline σ} {t : Trigger} {s : σ} {r : RunReport}
    (unbuilt : ∀ context version set s', ¬p.Built t s context version set s') : p.Accounted t s r [] :=
  ⟨List.forall_mem_nil _, fun _ hu => absurd hu List.not_mem_nil,
    fun _ context version set s₂ h => absurd h.built (unbuilt context version set s₂), fun _ => rfl⟩

/-- The calls of a run that reached the gate are accounted for by its decision. -/
theorem accounted_of_authorized {p : Pipeline σ} {t : Trigger} {s s₂ : σ} {r : RunReport} {context : RunContext}
    {version : Version} {set : ArtifactSet} {calls : List Call} (built : p.Built t s context version set s₂)
    (authorized : p.Authorized set (p.decisionOn context set s₂) calls) (hc : r.context = some context)
    (hv : r.version = some version) (hverdict : r.verdict = some (p.verdictOn set s₂)) : p.Accounted t s r calls := by
  have opens : ∀ call ∈ calls, p.Opens t s call.channel context version set s₂ :=
    fun call hcall => (allows_decisionOn_iff built call.channel).mp (authorized.allowed call hcall)
  refine ⟨fun call hcall => ?_, fun u hu => ?_, fun c context' version' set' s₂' h => ?_, fun closed => ?_⟩
  · have verified : p.verdictOn set s₂ = .pass := (opens call hcall).verified
    exact ⟨context, version, set, s₂, opens call hcall, hc, hv, hverdict.trans (congrArg some verified)⟩
  · have carries := authorized.carries u hu
    have same := carries.set
    subst same
    exact ⟨carries, context, version, s₂, opens _ hu⟩
  · obtain ⟨rfl, rfl, rfl, rfl⟩ := built.unique h.built
    exact authorized.once c ((allows_decisionOn_iff built c).mpr h)
  · refine List.eq_nil_iff_forall_not_mem.mpr fun call hcall => ?_
    exact closed _ _ _ _ _ (opens call hcall)

/-- What a recorded run has written down at its end is accounted for. -/
theorem accounted_of_recorded {p : Pipeline σ} {id : RunId} {t : Trigger} {s : σ} {y : σ × List Call}
    {published : List (Channel × Outcome × UInt64)} {progress : Progress}
    (h : p.recorded.Ends id t (s, []) published progress y) : p.Accounted t s progress.report y.2 := by
  obtain ⟨reported, ended⟩ := reported_of_ends (p.records_recorded.ends_of h)
  cases h with
  | aborted h =>
    obtain ⟨prepared, nothing⟩ := p.records_recorded.prepare_of h
    rw [nothing]
    exact accounted_nil (not_built_of_prepare prepared)
  | concluded h done =>
    obtain ⟨prepared, nothing⟩ := p.records_recorded.prepare_of h
    obtain ⟨calls, adds, authorized⟩ := authorized_of_published done
    rw [adds, nothing, List.nil_append]
    cases prepares_of_prepare prepared with
    | built built _ =>
      rcases ended with ⟨-, aborted⟩ | ⟨context, version, set, s₂, concluded⟩
      · exact absurd built (aborted.unbuilt _ _ _ _)
      · obtain ⟨rfl, rfl, rfl, rfl⟩ := concluded.built.unique built
        refine accounted_of_authorized built authorized ?_ ?_ concluded.verdict
        · rw [reported.context, built.classified]
          rfl
        · rw [reported.version, built.classified]
          show (Resolver.resolve p.source _ s).1.toOption = some _
          rw [built.resolved]
          rfl

end Pipeline

namespace Widget

theorem readBytes_archive : files.readBytes [] archive.path = .ok bytes :=
  FileSystem.readBytes_of_step fileName (by decide +kernel) (by decide +kernel) (by decide +kernel)

/-- The set of the release meets every demand. -/
theorem verify_set : Verifier.verify files [] set = .pass := by
  rw [Verifier.verify_eq_pass_iff]
  intro family
  cases family with
  | contents =>
    refine ⟨List.cons_ne_nil _ _, ?_, ?_⟩
    · intro a ha
      obtain rfl := List.mem_singleton.mp ha
      show (0 : UInt64) < 3
      decide
    · intro a ha
      obtain rfl := List.mem_singleton.mp ha
      exact ⟨bytes, readBytes_archive, rfl⟩
  | checksums =>
    refine ⟨_, rfl, rfl, ?_, ?_⟩
    · intro a ha
      obtain rfl := List.mem_singleton.mp ha
      show [(fileName, archive.sha256)].lookup fileName = some archive.sha256
      exact List.lookup_cons_self
    · intro name hn
      obtain rfl := List.mem_singleton.mp hn
      exact ⟨archive, List.mem_singleton.mpr rfl, rfl⟩
  | attribution =>
    refine ⟨?_, ?_⟩
    · intro a ha
      obtain rfl := List.mem_singleton.mp ha
      show Naming.carriesVersion fileName.toList version.canonical.toList = true
      decide +kernel
    · intro d hd
      obtain rfl := Option.some.inj hd
      refine ⟨?_, ⟨"1.2.0", by decide +kernel⟩, ?_, by decide +kernel⟩
      · intro a ha
        obtain rfl := List.mem_singleton.mp ha
        show Naming.normalizeName descriptor.name.toList <+: Naming.normalizeName fileName.toList
        decide +kernel
      · rw [Version.parse_eq_ok_iff]
        show Text.trimmed "1.2.0" = "1.2.0"
        decide +kernel
  | descriptor => exact ⟨descriptor, rfl, filledIn_descriptor⟩
  | markup =>
    intro d hd
    obtain rfl := Option.some.inj hd
    exact Verifier.wellMarked_of_plain hasMediaType_descriptor

/-- The release opens both channels. -/
theorem opens (c : Channel) : pipeline.Opens release {} c context version set { files } :=
  ⟨built, verify_set, .inl (RunContext.isReleaseOf built.classified built.resolved rfl)⟩

end Widget

namespace Pipeline

/-- Promotion is safe. The run is one of its ends, and every end is one of its recorded run; whatever the source, the builder, the
issuer and the registry answer and however the publishes fall between each other, what stands in the log then is accounted for. -/
theorem calls_accounted (p : Pipeline σ) (id : RunId) (t : Trigger) (s : σ) :
    (∃ published, p.Ends id t s published (p.run id t s).1 (p.run id t s).2) ∧
      ∀ published progress s',
        (p.Ends id t s published progress s' ↔ ∃ calls, p.recorded.Ends id t (s, []) published progress (s', calls)) ∧
          ∀ calls, p.recorded.Ends id t (s, []) published progress (s', calls) → p.Accounted t s progress.report calls := by
  refine ⟨ends_run p id t s, fun published progress s' => ⟨p.records_recorded.ends_iff id t s published progress s', ?_⟩⟩
  intro calls recorded
  exact accounted_of_recorded recorded

/-- The calls of the release of the widget are accounted for: the credential of each channel is asked for once. -/
theorem calls_accounted_release :
    ∃ published calls,
      Widget.pipeline.recorded.Ends Widget.runId Widget.release ({}, []) published
          (Widget.pipeline.run Widget.runId Widget.release {}).1 ((Widget.pipeline.run Widget.runId Widget.release {}).2, calls) ∧
        Widget.pipeline.Accounted Widget.release {} (Widget.pipeline.run Widget.runId Widget.release {}).1.report calls ∧
        ∀ c, (calls.filterMap Call.asked?).count c = 1 := by
  obtain ⟨⟨published, ends⟩, every⟩ := calls_accounted Widget.pipeline Widget.runId Widget.release {}
  obtain ⟨same, accounted⟩ := every published _ _
  obtain ⟨calls, recorded⟩ := same.mp ends
  exact ⟨published, calls, recorded, accounted calls recorded, fun c => (accounted calls recorded).once c _ _ _ _ (Widget.opens c)⟩

end Pipeline

end ReleaseGate
