import ReleaseGate.CommandLine
import ReleaseGate.Proofs.Files.Encoding
import ReleaseGate.Proofs.Report.Reasons
import ReleaseGate.Proofs.Run.Events

/-!
# The exit status of a run

The exit status of the command, the last event of its run, and the heading of its summary come from different places, and all tell
whether the run went well. `WentWell` says what that is: the first tasks succeeded, verification passed, and every channel that the
decision authorizes was published to with success.
-/

namespace ReleaseGate

theorem Outcome.isSuccess_iff (o : Outcome) : o.isSuccess = true ↔ o = .succeeded ∨ o = .skippedExisting := by
  cases o <;> simp [isSuccess]

namespace RunReport

variable {r : RunReport} {first : List TaskRecord} {settled : List Settlement}

/-- No task failed when neither a first task nor the publish of a settled channel did. -/
theorem Laid.failedTasks_eq_nil_iff (h : r.Laid first settled) :
    r.failedTasks = [] ↔ (∀ x ∈ first, x.status.isFailure = false) ∧ ∀ y ∈ settled, y.status.isFailure = false := by
  rw [RunReport.failedTasks_eq_nil_iff, h.tasks, List.forall_mem_append, List.forall_mem_map]
  rfl

/-- No channel failed when each is settled and none as a failure. -/
theorem Laid.failedChannels_eq_nil (h : r.Laid first settled) (each : (settled.map (·.channel)).Perm Channel.all)
    (well : ∀ y ∈ settled, y.became.isFailure = false) : r.failedChannels = [] := by
  rw [RunReport.failedChannels_eq_nil_iff]
  intro c status there
  obtain ⟨y, hy, rfl⟩ := List.mem_map.mp (each.mem_iff.mpr (Channel.mem_all c))
  obtain rfl := Option.some.inj ((h.became y hy).symm.trans there)
  exact well y hy

end RunReport

namespace Pipeline

variable {σ : Type}

/-! ## When a run goes well -/

/-- A run went well: its trigger was classified, its version resolved and its set built, the set passed verification, and the
channels that the decision authorizes are those that were published to, each with success. -/
def WentWell (p : Pipeline σ) (t : Trigger) (s : σ) (published : List (Channel × Outcome × UInt64)) : Prop :=
  ∃ context version set s₂, p.Built t s context version set s₂ ∧ Verifier.verify (p.files s₂) p.cwd set = .pass ∧
    published.map (·.1) = (p.policy.decision context .pass).channels ∧
    ∀ x ∈ published, x.2.1 = .succeeded ∨ x.2.1 = .skippedExisting

/-- A decision on a set that passed is no failure. -/
theorem fatalError?_of_pass (policy : GatePolicy) (context : RunContext) : fatalError? (policy.decision context .pass) = none := by
  have eligible : policy.decision context .pass = policy.eligibility context := by
    unfold GatePolicy.decision
    cases policy.eligibility context <;> rfl
  rw [eligible]
  unfold GatePolicy.eligibility
  split
  · rfl
  · rfl
  · split
    · rfl
    · split <;> rfl

/-- A run that reached the gate succeeded when its set passed verification and every publish was a success. -/
theorem succeeded_concluded_iff {p : Pipeline σ} {t : Trigger} {s s₂ : σ} {r : RunReport} {context : RunContext}
    {version : Version} {set : ArtifactSet} {published : List (Channel × Outcome × UInt64)}
    (concluded : p.Concluded t s context version set s₂ published r) :
    r.succeeded = true ↔ p.verdictOn set s₂ = .pass ∧ ∀ x ∈ published, x.2.1.isSuccess = true := by
  obtain ⟨classify, resolve, build, verify, laid⟩ := concluded.laid
  obtain ⟨s₃, done⟩ := concluded.done
  have each := perm_settled_channels done context (p.verdictOn set s₂).passed
  rw [RunReport.succeeded_iff, concluded.verdict, concluded.error, laid.failedTasks_eq_nil_iff]
  constructor
  · rintro ⟨-, verdict, -, -, tasks⟩
    refine ⟨Option.some.inj verdict, fun x hx => ?_⟩
    have status := tasks (Settlement.ofOutcome x) (List.mem_append_right _ (List.mem_map_of_mem hx))
    obtain ⟨c, outcome, durationMs⟩ := x
    cases outcome with
    | failed reason => cases status
    | succeeded => rfl
    | skippedExisting => rfl
  · rintro ⟨verified, outcomes⟩
    have settled : ∀ y ∈ unauthorized context (p.decisionOn context set s₂) (p.verdictOn set s₂).passed
        ++ published.map Settlement.ofOutcome, y.status.isFailure = false ∧ y.became.isFailure = false := by
      intro y hy
      rcases List.mem_append.mp hy with hy | hy
      · obtain ⟨c, -, rfl⟩ := List.mem_map.mp hy
        rw [verified]
        exact ⟨rfl, rfl⟩
      · obtain ⟨⟨c, outcome, durationMs⟩, hx, rfl⟩ := List.mem_map.mp hy
        have success := outcomes _ hx
        cases outcome with
        | failed reason => cases success
        | succeeded => exact ⟨rfl, rfl⟩
        | skippedExisting => exact ⟨rfl, rfl⟩
    refine ⟨?_, congrArg some verified, laid.failedChannels_eq_nil each fun y hy => (settled y hy).2, ?_,
      fun y hy => (settled y hy).1⟩
    · unfold decisionOn
      rw [verified]
      exact fatalError?_of_pass p.policy context
    · rw [verified]
      simp [statusOf, TaskStatus.isFailure]

/-- The report of a run is one of success exactly when the run went well. -/
theorem succeeded_iff_wentWell {p : Pipeline σ} {id : RunId} {t : Trigger} {s s' : σ}
    {published : List (Channel × Outcome × UInt64)} {progress : Progress} (h : p.Ends id t s published progress s') :
    progress.report.succeeded = true ↔ p.WentWell t s published := by
  obtain ⟨-, ⟨-, aborted⟩ | ⟨context, version, set, s₂, concluded⟩⟩ := reported_of_ends h
  · refine iff_of_false ?_ ?_
    · rw [RunReport.succeeded_iff]
      rintro ⟨none, -⟩
      have failure := aborted.error
      rw [none] at failure
      cases failure
    · rintro ⟨context, version, set, s₂, built, -⟩
      exact aborted.unbuilt context version set s₂ built
  · rw [succeeded_concluded_iff concluded]
    obtain ⟨s₃, done⟩ := concluded.done
    constructor
    · rintro ⟨verified, outcomes⟩
      refine ⟨context, version, set, s₂, concluded.built, verified, ?_, fun x hx => ?_⟩
      · rw [done.channels, decisionOn, verified]
      · exact (Outcome.isSuccess_iff x.2.1).mp (outcomes x hx)
    · rintro ⟨context', version', set', s₂', built, verified, -, outcomes⟩
      obtain ⟨rfl, rfl, rfl, rfl⟩ := concluded.built.unique built
      exact ⟨verified, fun x hx => (Outcome.isSuccess_iff x.2.1).mpr (outcomes x hx)⟩

end Pipeline

namespace CommandLine

/-! ## What the command tells -/

/-- The files to which the report of a run and its summary are to go can be written. -/
def Writable (w : Surroundings Machine) (reportJson summaryMd : Option Path) (r : RunReport) (m : Machine) : Prop :=
  ∃ m₁ m₂, writeTo reportJson (fun fs path => r.write fs w.cwd path) m = .ok m₁ ∧
    writeTo summaryMd (fun fs path => r.appendSummary fs w.cwd path) m₁ = .ok m₂

theorem status_of_eq_zero_iff (output : String) (c : Option Complaint) : (Result.of output c).status = 0 ↔ c = none := by
  cases c with
  | none => exact iff_of_true rfl rfl
  | some c => exact iff_of_false (by simp [Result.of]) nofun

theorem status_failed (c : Complaint) : (Result.failed c).status ≠ 0 := by
  simp [Result.failed, Result.of]

/-- A run is concluded with success exactly when it is written down and its report is one of success. -/
theorem status_conclude_eq_zero_iff (w : Surroundings Machine) (reportJson summaryMd : Option Path) (r : RunReport) (m : Machine) :
    (conclude w reportJson summaryMd r m).1.status = 0 ↔ Writable w reportJson summaryMd r m ∧ r.succeeded = true := by
  unfold conclude Writable
  cases hr : writeTo reportJson (fun fs path => r.write fs w.cwd path) m with
  | error c =>
    refine iff_of_false (status_failed c) ?_
    rintro ⟨⟨m₁, m₂, written, -⟩, -⟩
    cases written
  | ok m₁ =>
    dsimp only
    cases hs : writeTo summaryMd (fun fs path => r.appendSummary fs w.cwd path) m₁ with
    | error c =>
      refine iff_of_false (status_failed c) ?_
      rintro ⟨⟨m₁', m₂, same, written⟩, -⟩
      obtain rfl := Except.ok.inj same
      rw [hs] at written
      cases written
    | ok m₂ =>
      have complaint : runComplaint r = none ↔ r.succeeded = true := by
        rw [← RunReport.failureReason?_eq_none, runComplaint, Option.map_eq_none_iff]
      rw [status_of_eq_zero_iff, complaint]
      exact ⟨fun well => ⟨⟨m₁, m₂, rfl, hs⟩, well⟩, fun h => h.2⟩

/-- The command tells whether a run went well, in each of the ways in which it can. -/
structure Tells (w : Surroundings Machine) (reportJson summaryMd : Option Path) (progress : Progress) (m : Machine) (well : Prop) :
    Prop where
  /-- By its exit status, if the report and the summary can be written. -/
  status : (conclude w reportJson summaryMd progress.report m).1.status = 0 ↔
    Writable w reportJson summaryMd progress.report m ∧ well
  /-- By the last event, which is the only one that says that the run is finished. -/
  event : ∃ before ms success, progress.events = before ++ [.runFinished ms success] ∧
    before.any Event.isRunFinished = false ∧ (success = true ↔ well)
  /-- By the heading of the summary. -/
  heading : (well → ∃ rest, progress.report.summary = "# Shipgate run succeeded\n\n" ++ rest) ∧
    (¬well → ∃ rest, progress.report.summary = "# Shipgate run failed\n\n" ++ rest)

/-- However a run ends, the command tells whether it went well. -/
theorem tells_of_ends {w : Surroundings Machine} {reportJson summaryMd : Option Path} {p : Pipeline Machine} {id : RunId}
    {t : Trigger} {m m₁ : Machine} {published : List (Channel × Outcome × UInt64)} {progress : Progress}
    (h : p.Ends id t m published progress m₁) :
    Tells w reportJson summaryMd progress m₁ (p.WentWell t m published) := by
  have well := Pipeline.succeeded_iff_wentWell h
  obtain ⟨before, ms, last, unfinished⟩ := Pipeline.finished_of_ends h
  obtain ⟨rest, summary⟩ := progress.report.exists_summary_eq
  constructor
  · rw [status_conclude_eq_zero_iff, well]
  · exact ⟨before, ms, _, last, unfinished, well⟩
  · constructor
    · intro good
      rw [if_pos (well.mpr good)] at summary
      exact ⟨rest, summary⟩
    · intro bad
      rw [if_neg fun succeeded => bad (well.mp succeeded)] at summary
      exact ⟨rest, summary⟩

/-- A run whose set did not pass verification did not go well, whatever its trigger was eligible for. -/
theorem not_wentWell_of_fail {σ : Type} {p : Pipeline σ} {t : Trigger} {s s₂ : σ} {context : RunContext} {version : Version}
    {set : ArtifactSet} {issues : List Issue} (built : p.Built t s context version set s₂)
    (failed : Verifier.verify (p.files s₂) p.cwd set = .fail issues) (published : List (Channel × Outcome × UInt64)) :
    ¬p.WentWell t s published := by
  rintro ⟨context', version', set', s₂', built', passed, -⟩
  obtain ⟨rfl, rfl, rfl, rfl⟩ := built.unique built'
  rw [failed] at passed
  cases passed

/-- With a configuration that is loaded, the command fails if there is no pipeline for it, and otherwise concludes a run of that
pipeline. However such a run ends, and in whichever order the steps of its publishes come, the exit status, the last event and the
heading of the summary tell whether it went well; and a failed verification makes the command fail. -/
theorem run_tells {w : Surroundings Machine} {config : Path} {m : Machine} {cfg : Config}
    (loaded : loadConfig m.files w.cwd config = .ok cfg) (id : RunId) (t : Trigger) (reportJson summaryMd : Option Path) :
    (∀ e, cfg.pipeline w = .error e → (run w id config t reportJson summaryMd m).1.status ≠ 0) ∧
      ∀ p, cfg.pipeline w = .ok p →
        (∃ published progress m₁, p.Ends id t m published progress m₁ ∧
          run w id config t reportJson summaryMd m = conclude w reportJson summaryMd progress.report m₁) ∧
        ∀ published progress m₁, p.Ends id t m published progress m₁ →
          Tells w reportJson summaryMd progress m₁ (p.WentWell t m published) ∧
            ∀ context version set m₂ issues, p.Built t m context version set m₂ →
              Verifier.verify (p.files m₂) p.cwd set = .fail issues →
              (conclude w reportJson summaryMd progress.report m₁).1.status ≠ 0 := by
  refine ⟨fun e refused => ?_, fun p made => ⟨?_, fun published progress m₁ ends => ?_⟩⟩
  · unfold run
    rw [loaded]
    dsimp only
    rw [refused]
    exact status_failed _
  · obtain ⟨published, ends⟩ := Pipeline.ends_run p id t m
    refine ⟨published, _, _, ends, ?_⟩
    unfold run
    rw [loaded]
    dsimp only
    rw [made]
  · have tells : Tells w reportJson summaryMd progress m₁ (p.WentWell t m published) := tells_of_ends ends
    refine ⟨tells, fun context version set m₂ issues built failed succeeded => ?_⟩
    exact not_wentWell_of_fail built failed published (tells.status.mp succeeded).2

/-! ### A command to look at -/

/-- A configuration in which everything that may be left out is left out. -/
def shortConfig : String :=
  "repository.canonical='acme/widget'\npackage.name='widget'\nchannels.staging.url='test'\nchannels.production.url='main'\n"

/-- A machine that holds nothing but that configuration. -/
def smallMachine : Machine := { files := ⟨[(["shipgate.toml"], .file (Text.Utf8.encode shortConfig) true)]⟩, now := .epoch }

/-- Surroundings in which no program can be started. -/
def bareSurroundings : Surroundings Machine :=
  { cwd := [], environment := [], commands := fun _ _ fs => (.notStarted .notFound, fs), client := Http.offline
    files := Machine.fileSystem, clock := Machine.now }

theorem loadConfig_smallMachine :
    ∃ cfg, loadConfig smallMachine.files bareSurroundings.cwd ⟨"shipgate.toml"⟩ = .ok cfg ∧ cfg.credentials.mode = .env := by
  have read : smallMachine.files.readBytes bareSurroundings.cwd ⟨"shipgate.toml"⟩ = .ok (Text.Utf8.encode shortConfig) :=
    FileSystem.readBytes_of_step "shipgate.toml" (by decide +kernel) (by decide +kernel) rfl
  have text : smallMachine.files.readText bareSurroundings.cwd ⟨"shipgate.toml"⟩ = .ok shortConfig := by
    unfold FileSystem.readText
    rw [read]
    simp only [Except.bind, Text.Utf8.decode_encode]
  have known : (Config.parse (Config.baseDirOf ⟨"shipgate.toml"⟩) shortConfig).toOption.map (·.credentials.mode) = some .env := by
    decide +kernel
  cases parsed : Config.parse (Config.baseDirOf ⟨"shipgate.toml"⟩) shortConfig with
  | error e =>
    rw [parsed] at known
    cases known
  | ok cfg =>
    rw [parsed] at known
    refine ⟨cfg, ?_, Option.some.inj known⟩
    unfold loadConfig Config.load
    rw [text]
    dsimp only
    rw [parsed]
    rfl

/-- A run of the small machine is told truly. -/
theorem run_tells_smallMachine :
    ∃ cfg p published progress m,
      loadConfig smallMachine.files bareSurroundings.cwd ⟨"shipgate.toml"⟩ = .ok cfg ∧ cfg.pipeline bareSurroundings = .ok p ∧
        p.Ends Widget.runId Widget.release smallMachine published progress m ∧
        Tells bareSurroundings none none progress m (p.WentWell Widget.release smallMachine published) := by
  obtain ⟨cfg, loaded, mode⟩ := loadConfig_smallMachine
  obtain ⟨p, made⟩ : ∃ p, cfg.pipeline bareSurroundings = .ok p := by
    unfold Config.pipeline Config.issuer
    rw [mode]
    exact ⟨_, rfl⟩
  obtain ⟨⟨published, progress, m, ends, -⟩, every⟩ := (run_tells loaded Widget.runId Widget.release none none).2 p made
  exact ⟨cfg, p, published, progress, m, loaded, made, ends, (every published progress m ends).1⟩

end CommandLine

end ReleaseGate
