import ReleaseGate.Proofs.Build.Stages
import ReleaseGate.Proofs.Codec.Domain
import ReleaseGate.Proofs.Run.Agreement
import ReleaseGate.Proofs.Run.Story
import ReleaseGate.Proofs.Version.Canonical

/-!
# What the previews show

`classify`, `version` and `verify` put parts of a run together on their own: the gate with a verdict that is taken for granted, the
resolver without a builder after it, and the verifier on a directory that is read anew, for a version that is given as a text. Where
they find the files and the answer of the derivation tool that a run finds, they show what the run records.
-/

namespace ReleaseGate

namespace Pipeline

variable {σ : Type}

/-- A run whose set passed verification takes the decision that is taken on a pass. -/
theorem decision_of_pass {p : Pipeline σ} {id : RunId} {t : Trigger} {s s' : σ} {published : List (Channel × Outcome × UInt64)}
    {progress : Progress} (h : p.Ends id t s published progress s') {context : RunContext}
    (known : progress.report.context = some context) (passed : progress.report.verdict = some .pass) :
    progress.report.decision = some (p.policy.decision context .pass) := by
  obtain ⟨reported, ⟨-, aborted⟩ | ⟨context', version, set, s₂, concluded⟩⟩ := reported_of_ends h
  · rw [aborted.verdict] at passed
    cases passed
  · have classified := reported.context
    rw [known, concluded.built.classified] at classified
    obtain rfl : context = context' := Option.some.inj classified
    rw [concluded.verdict] at passed
    rw [concluded.decision, decisionOn, Option.some.inj passed]

end Pipeline

namespace CommandLine

/-! ## The previews of a run -/

/-- A command that finds what another one finds: it works from the same directory, with the files of the machine as they are there. -/
structure Unchanged (w : Surroundings Machine) (m : Machine) (w' : Surroundings Machine) (m' : Machine) : Prop where
  cwd : w'.cwd = w.cwd
  files : m'.files = m.files
  disk : w.files = Machine.fileSystem
  disk' : w'.files = Machine.fileSystem

/-- What the derivation tool of a configuration says. -/
def derived (cfg : Config) (w : Surroundings Machine) (m : Machine) : Except Failure String :=
  (cfg.source.derive w.commands w.cwd w.environment m.files).1

/-- A text shows a context and a decision: it is an object of the two on lines of its own, and both are read back from it. -/
structure Shows (text : String) (context : RunContext) (decision : Decision) : Prop where
  printed : text = (Json.object [("context", Codec.ofContext context), ("if_verified", Codec.ofDecision decision)]).pretty ++ "\n"
  readBack : ∃ c d, Json.parse? text = some (.object [("context", c), ("if_verified", d)]) ∧ Codec.context? c = some context ∧
    Codec.decision? d = some decision

/-- What the previews of a run show beside its report: `classify` and `version` with the files as the run found them, and `verify`
with the files as its build left them. -/
structure Foreseen (cfg : Config) (p : Pipeline Machine) (config : Path) (t : Trigger) (m : Machine) (w' : Surroundings Machine)
    (m' : Machine) (r : RunReport) : Prop where
  classify_status : (classify w' config t m').status = 0 ↔ r.ended? .classify = some .succeeded
  classify_output : ∀ context, r.context = some context → ∃ output,
    classify w' config t m' = { status := 0, output, errorOutput := "" } ∧
      Shows output context (p.policy.decision context .pass)
  /-- The decision that is shown is the one that the run takes when its verification passes. -/
  decision : ∀ context, r.context = some context → r.verdict = some .pass → r.decision = some (p.policy.decision context .pass)
  version_status : (version w' config t m').1.status ≠ 0 ↔
    (r.ended? .classify).any TaskStatus.isFailure = true ∨ (r.ended? .resolveVersion).any TaskStatus.isFailure = true
  version_output : ∀ v, r.version = some v →
    (version w' config t m').1 = { status := 0, output := v.text ++ "\n", errorOutput := "" }
  verify : r.ended? .build = some .succeeded → ∃ context v set m₂ verdict, p.Built t m context v set m₂ ∧
    r.version = some v ∧ r.verdict = some verdict ∧ set.dir = cfg.builder.outputDir v ∧
    ∀ n : Machine, n.files = m₂.files →
      ((verify w' set.dir v.text n).status = 0 ↔ verdict = .pass) ∧
        ∀ issues, verdict = .fail issues →
          (verify w' set.dir v.text n).output =
            String.join (issues.map fun i => "✗ " ++ s!"[{i.family.name}] {i.subject}: {i.detail}" ++ "\n")

/-- What is complained of without a cause is one line. -/
theorem text_of_what (what : String) : Complaint.text { what } = s!"Error: {what}\n" := by
  show "Error: " ++ what ++ "" ++ "\n" = "Error: " ++ what ++ "\n"
  rw [String.append_empty]

section Previews

variable {cfg : Config} {p : Pipeline Machine} {config : Path} {w w' : Surroundings Machine} {m m' : Machine}

/-- What `classify` prints shows the context and the decision. -/
theorem shows_preview (context : RunContext) (decision : Decision) : Shows (preview context decision) context decision where
  printed := rfl
  readBack := by
    refine ⟨_, _, Json.parse?_pretty_newline ?_, Codec.readsBack_context.read context, Codec.readsBack_decision.read decision⟩
    simp [Codec.readsBack_context.plain, Codec.readsBack_decision.plain]

theorem classify_of_ok (loaded : loadConfig m.files w.cwd config = .ok cfg) {t : Trigger} {context : RunContext}
    (classified : t.classify = .ok context) :
    classify w config t m = .of (preview context (cfg.gatePolicy.decision context .pass)) none := by
  unfold classify CommandLine.classified
  rw [loaded, classified]
  rfl

theorem classify_of_error (loaded : loadConfig m.files w.cwd config = .ok cfg) {t : Trigger} {e : Trigger.Error}
    (classified : t.classify = .error e) : (classify w config t m).status ≠ 0 := by
  unfold classify CommandLine.classified
  rw [loaded, classified]
  exact status_failed _

/-- What `version` shows of what the resolver comes to. -/
def versionResult : Except Failure Version → Result
  | .ok v => .of (v.text ++ "\n") none
  | .error e => .failed (.because "Failed to resolve version" e)

theorem version_of_ok (loaded : loadConfig m.files w.cwd config = .ok cfg) {t : Trigger} {context : RunContext}
    (classified : t.classify = .ok context) :
    (version w config t m).1 =
      versionResult (Resolver.resolve (w.onFiles (cfg.source.derive w.commands w.cwd w.environment)) context m).1 := by
  unfold version CommandLine.classified
  rw [loaded, classified]
  dsimp only [Except.mapError]
  generalize Resolver.resolve _ context m = answer
  obtain ⟨_ | _, _⟩ := answer <;> rfl

theorem status_versionResult (resolved : Except Failure Version) :
    (versionResult resolved).status = 0 ↔ resolved.toOption.isSome = true := by
  cases resolved with
  | ok v => exact iff_of_true rfl rfl
  | error e => exact iff_of_false (status_failed _) nofun

theorem version_of_error (loaded : loadConfig m.files w.cwd config = .ok cfg) {t : Trigger} {e : Trigger.Error}
    (classified : t.classify = .error e) : (version w config t m).1.status ≠ 0 := by
  unfold version CommandLine.classified
  rw [loaded, classified]
  exact status_failed _

/-- `verify` gives its verdict on the set that is found in a directory, for the version that a text spells. -/
theorem verify_of_load {dir : Path} {v : Version} {set : ArtifactSet} (loaded : ArtifactSet.load m.files w.cwd dir v = .ok set) :
    verify w dir v.text m = verdictResult set.artifacts.length (Verifier.verify m.files w.cwd set) := by
  unfold verify
  rw [v.parse_text]
  dsimp only
  rw [loaded]

theorem status_verdictResult (artifactCount : Nat) (verdict : Verdict) :
    (verdictResult artifactCount verdict).status = 0 ↔ verdict = .pass := by
  cases verdict with
  | pass => exact iff_of_true rfl rfl
  | fail issues => exact iff_of_false (by simp [verdictResult, Result.of]) nofun

/-- What a pipeline has of its configuration. -/
theorem parts_of_pipeline (made : cfg.pipeline w = .ok p) :
    p.policy = cfg.gatePolicy ∧ p.source = w.onFiles (cfg.source.derive w.commands w.cwd w.environment) ∧
      p.builder = (fun v => w.onFiles (cfg.builder.build w.commands w.cwd w.environment v)) ∧ p.files = w.files.get ∧
      p.cwd = w.cwd := by
  unfold Config.pipeline at made
  cases issued : cfg.issuer w with
  | error e =>
    rw [issued] at made
    cases made
  | ok issuer =>
    rw [issued] at made
    obtain rfl := Except.ok.inj made
    exact ⟨rfl, rfl, rfl, rfl, rfl⟩

/-- A set that a run builds is what is found in the output directory of its version, with the files as the build left them. -/
theorem load_of_built (made : cfg.pipeline w = .ok p) (disk : w.files = Machine.fileSystem) {t : Trigger} {context : RunContext}
    {v : Version} {set : ArtifactSet} {m₂ : Machine} (built : p.Built t m context v set m₂) :
    ArtifactSet.load m₂.files w.cwd (cfg.builder.outputDir v) v = .ok set := by
  obtain ⟨-, -, builder, -, -⟩ := parts_of_pipeline made
  have ran := built.built
  rw [builder] at ran
  generalize (Resolver.resolve p.source context m).2 = m₁ at ran
  unfold Surroundings.onFiles at ran
  rw [disk] at ran
  obtain ⟨answer, after⟩ := Prod.mk.inj ran
  have left : (cfg.builder.build w.commands w.cwd w.environment v m₁.files).2 = m₂.files := by
    rw [← after]
    rfl
  exact Builder.load_of_build (Prod.ext answer left)

/-- The resolver of a preview comes to what that of the run comes to. -/
theorem resolve_eq (same : Unchanged w m w' m') (made : cfg.pipeline w = .ok p) (answers : derived cfg w' m' = derived cfg w m)
    (context : RunContext) :
    (Resolver.resolve (w'.onFiles (cfg.source.derive w'.commands w'.cwd w'.environment)) context m').1 =
      (Resolver.resolve p.source context m).1 := by
  obtain ⟨-, source, -, -, -⟩ := parts_of_pipeline made
  refine Resolver.resolve_congr ?_ context
  rw [source]
  unfold Surroundings.onFiles
  rw [same.disk, same.disk']
  exact answers

variable {id : RunId} {t : Trigger} {published : List (Channel × Outcome × UInt64)} {progress : Progress} {m₁ : Machine}

/-- `classify` shows the context of a run and fails where a run has none. -/
theorem classify_of_ends (loaded : loadConfig m'.files w'.cwd config = .ok cfg) (h : p.Ends id t m published progress m₁) :
    ((classify w' config t m').status = 0 ↔ progress.report.context.isSome = true) ∧
      ∀ context, progress.report.context = some context → ∃ output,
        classify w' config t m' = { status := 0, output, errorOutput := "" } ∧
          Shows output context (cfg.gatePolicy.decision context .pass) := by
  have context := (Pipeline.reported_of_ends h).1.context
  cases classified : t.classify with
  | error e =>
    rw [classified] at context
    rw [context]
    exact ⟨iff_of_false (classify_of_error loaded classified) nofun, nofun⟩
  | ok c =>
    rw [classified] at context
    rw [context, classify_of_ok loaded classified]
    refine ⟨iff_of_true rfl rfl, ?_⟩
    rintro d ⟨⟩
    exact ⟨_, rfl, shows_preview _ _⟩

/-- `version` shows the version of a run and fails where a run has none. -/
theorem version_of_ends (same : Unchanged w m w' m') (loaded : loadConfig m'.files w'.cwd config = .ok cfg)
    (made : cfg.pipeline w = .ok p) (answers : derived cfg w' m' = derived cfg w m) (h : p.Ends id t m published progress m₁) :
    ((version w' config t m').1.status = 0 ↔ progress.report.version.isSome = true) ∧
      ∀ v, progress.report.version = some v →
        (version w' config t m').1 = { status := 0, output := v.text ++ "\n", errorOutput := "" } := by
  have resolved := (Pipeline.reported_of_ends h).1.version
  cases classified : t.classify with
  | error e =>
    rw [classified] at resolved
    rw [resolved]
    exact ⟨iff_of_false (version_of_error loaded classified) nofun, nofun⟩
  | ok c =>
    have known : progress.report.version = (Resolver.resolve p.source c m).1.toOption := by
      rw [resolved, classified]
      rfl
    rw [known, version_of_ok loaded classified, resolve_eq same made answers]
    refine ⟨status_versionResult _, fun v shown => ?_⟩
    cases answer : (Resolver.resolve p.source c m).1 with
    | error e =>
      rw [answer] at shown
      cases shown
    | ok u =>
      rw [answer] at shown
      obtain rfl := Option.some.inj shown
      rfl

/-- `verify` gives the verdict of a run on the directory that it built. -/
theorem verify_of_ends (same : Unchanged w m w' m') (made : cfg.pipeline w = .ok p) {context : RunContext} {v : Version}
    {set : ArtifactSet} {m₂ : Machine} (built : p.Built t m context v set m₂) (h : p.Ends id t m published progress m₁) :
    ∃ verdict, progress.report.verdict = some verdict ∧
      ∀ n : Machine, n.files = m₂.files → verify w' set.dir v.text n = verdictResult set.artifacts.length verdict := by
  obtain ⟨-, -, -, files, cwd⟩ := parts_of_pipeline made
  obtain ⟨-, concluded, -⟩ := Pipeline.concluded_of_ends built h
  have loaded := load_of_built made same.disk built
  refine ⟨_, concluded.verdict, fun n left => ?_⟩
  have found : ArtifactSet.load n.files w'.cwd set.dir v = .ok set := by rw [left, same.cwd, ArtifactSet.dir_of_load loaded, loaded]
  rw [verify_of_load found, Pipeline.verdictOn, files, cwd, left, same.cwd, same.disk]
  rfl

/-- However a run ends, the previews that find what it found show what its report says. -/
theorem foreseen_of_ends (same : Unchanged w m w' m') (loaded : loadConfig m.files w.cwd config = .ok cfg)
    (made : cfg.pipeline w = .ok p) (answers : derived cfg w' m' = derived cfg w m) (h : p.Ends id t m published progress m₁) :
    Foreseen cfg p config t m w' m' progress.report := by
  have loaded' : loadConfig m'.files w'.cwd config = .ok cfg := by rw [same.files, same.cwd, loaded]
  have progressed := Pipeline.progressed_of_ends h
  obtain ⟨classify_status, classify_output⟩ := classify_of_ends loaded' h
  obtain ⟨version_status, version_output⟩ := version_of_ends same loaded' made answers h
  obtain ⟨policy, -⟩ := parts_of_pipeline made
  constructor
  · rw [classify_status, progressed.context]
  · rw [policy]
    exact classify_output
  · exact fun context => Pipeline.decision_of_pass h
  · rw [← progressed.noVersion, ne_eq, version_status, Option.not_isSome_iff_eq_none]
  · exact version_output
  · intro succeeded
    obtain ⟨context, v, set, m₂, built⟩ := progressed.set.mpr succeeded
    obtain ⟨-, -, resolved⟩ := Pipeline.concluded_of_ends built h
    obtain ⟨verdict, verified, shown⟩ := verify_of_ends same made built h
    refine ⟨context, v, set, m₂, verdict, built, resolved, verified, ArtifactSet.dir_of_load (load_of_built made same.disk built),
      fun n left => ?_⟩
    rw [shown n left]
    refine ⟨status_verdictResult _ _, ?_⟩
    rintro issues rfl
    rfl

/-- The previews agree with the run. A configuration that cannot be loaded makes all of them fail alike. With one that is loaded and
has a pipeline, the run command concludes a run of that pipeline; and however a run of it ends, in whichever order the steps of its
publishes come, commands that find the same files and the same answer of the derivation tool foresee what its report says. -/
theorem previews_agree (same : Unchanged w m w' m') (id : RunId) (config : Path) (t : Trigger) (reportJson summaryMd : Option Path) :
    (∀ c, loadConfig m.files w.cwd config = .error c →
      classify w' config t m' = { status := 1, output := "", errorOutput := c.text } ∧
        version w' config t m' = ({ status := 1, output := "", errorOutput := c.text }, m') ∧
        run w id config t reportJson summaryMd m = ({ status := 1, output := "", errorOutput := c.text }, m)) ∧
      ∀ cfg, loadConfig m.files w.cwd config = .ok cfg →
        (∀ e, cfg.pipeline w = .error e →
          run w id config t reportJson summaryMd m =
            ({ status := 1, output := "", errorOutput := s!"Error: {e.message}\n" }, m)) ∧
          ∀ p, cfg.pipeline w = .ok p → derived cfg w' m' = derived cfg w m →
            (∃ published progress m₁, p.Ends id t m published progress m₁ ∧
              run w id config t reportJson summaryMd m = conclude w reportJson summaryMd progress.report m₁) ∧
            ∀ published progress m₁, p.Ends id t m published progress m₁ → Foreseen cfg p config t m w' m' progress.report := by
  refine ⟨fun c refused => ?_, fun cfg loaded => ⟨fun e refused => ?_, fun p made answers => ⟨?_, ?_⟩⟩⟩
  · have refused' : loadConfig m'.files w'.cwd config = .error c := by rw [same.files, same.cwd, refused]
    unfold classify version run
    rw [refused, refused']
    exact ⟨rfl, rfl, rfl⟩
  · unfold run
    rw [loaded]
    dsimp only
    rw [refused, ← text_of_what]
    rfl
  · obtain ⟨published, ends⟩ := Pipeline.ends_run p id t m
    refine ⟨published, _, _, ends, ?_⟩
    unfold run
    rw [loaded]
    dsimp only
    rw [made]
  · exact fun published progress m₁ ends => foreseen_of_ends same loaded made answers ends

end Previews

/-- A run of the small machine is foreseen, also from another environment. -/
theorem previews_agree_smallMachine :
    let elsewhere : Surroundings Machine := { bareSurroundings with environment := [("CI", "true")] }
    ∃ cfg p published progress m,
      loadConfig smallMachine.files bareSurroundings.cwd ⟨"shipgate.toml"⟩ = .ok cfg ∧ cfg.pipeline bareSurroundings = .ok p ∧
        derived cfg elsewhere smallMachine = derived cfg bareSurroundings smallMachine ∧
        p.Ends Widget.runId Widget.release smallMachine published progress m ∧
        Foreseen cfg p ⟨"shipgate.toml"⟩ Widget.release smallMachine elsewhere smallMachine progress.report := by
  intro elsewhere
  obtain ⟨cfg, loaded, mode⟩ := loadConfig_smallMachine
  obtain ⟨p, made⟩ : ∃ p, cfg.pipeline bareSurroundings = .ok p := by
    unfold Config.pipeline Config.issuer
    rw [mode]
    exact ⟨_, rfl⟩
  have answers : derived cfg elsewhere smallMachine = derived cfg bareSurroundings smallMachine := by
    unfold derived CommandSource.derive
    cases cfg.source.command <;> rfl
  have same : Unchanged bareSurroundings smallMachine elsewhere smallMachine := ⟨rfl, rfl, rfl, rfl⟩
  obtain ⟨-, agree⟩ := previews_agree same Widget.runId ⟨"shipgate.toml"⟩ Widget.release none none
  obtain ⟨⟨published, progress, m, ends, -⟩, foreseen⟩ := (agree cfg loaded).2 p made answers
  exact ⟨cfg, p, published, progress, m, loaded, made, answers, ends, foreseen published progress m ends⟩

end CommandLine

end ReleaseGate
