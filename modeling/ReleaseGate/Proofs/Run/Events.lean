import ReleaseGate.Proofs.Run.Records

/-!
# What a run tells

The events of a run, as they follow from how it goes: those up to the gate, one for each publish, and at last one that tells how it
ended. Each part of a run only adds events to those before it, and none but the last says that the run is finished.
-/

namespace ReleaseGate

/-- Whether an event says that a run is finished. -/
def Event.isRunFinished : Event → Bool
  | .runFinished _ _ => true
  | _ => false

namespace Progress

theorem events_cancelAll (tasks : List Task) (p : Progress) :
    (tasks.foldl (fun p task => p.record task .cancelled 0) p).events = p.events := by
  induction tasks generalizing p with
  | nil => rfl
  | cons task rest ih =>
    rw [List.foldl_cons, ih]
    rfl

/-- The last event of a run tells how long it took and whether it succeeded. -/
theorem events_finish (p : Progress) (now : Timestamp) (success : RunReport → Bool) :
    (p.finish now success).events =
      p.events ++ [.runFinished ((p.finish now success).report.durationMs now) (success (p.finish now success).report)] := rfl

theorem events_note (p : Progress) (f : RunReport → RunReport) : (p.note f).events = p.events := rfl

/-- A run that one of its first tasks ended tells so, and that it is finished without success. -/
theorem events_abort (p : Progress) (failed : Task) (e : Failure) (durationMs : UInt64) (now : Timestamp) :
    (p.abort failed e durationMs now).events =
      p.events ++ [.runAborted failed.name e.message] ++
        [.runFinished ((p.abort failed e durationMs now).report.durationMs now) false] := by
  unfold abort
  rw [events_finish, events_note, events_cancelAll]
  rfl

end Progress

namespace Pipeline

variable {σ : Type}

/-- The event of a publish. -/
def publishEvent (published : Channel × Outcome × UInt64) : Event := .publishFinished published.1 published.2.1

/-- The event of a decision that makes a run fail. -/
def fatalEvents (decision : Decision) : List Event :=
  match decision.reason? with
  | some (.verificationFailed issues) => [.runAborted Task.verify.name (Failure.verification issues).message]
  | _ => []

theorem events_recordFatal (decision : Decision) (p : Progress) :
    (recordFatal decision p).events = p.events ++ fatalEvents decision := by
  unfold recordFatal fatalEvents
  cases decision.reason? with
  | none => exact (List.append_nil _).symm
  | some reason =>
    cases reason with
    | verificationFailed issues => rfl
    | ineligible why => exact (List.append_nil _).symm
    | manualDispatch => exact (List.append_nil _).symm

theorem events_recordUnauthorized (context : RunContext) (decision : Decision) (verified : Bool) (cs : List Channel) (p : Progress) :
    (cs.foldl (recordUnauthorized context decision verified) p).events = p.events := by
  induction cs generalizing p with
  | nil => rfl
  | cons c rest ih =>
    rw [List.foldl_cons, ih]
    rfl

/-- What is told at the gate: the verdict, the decision, and its failure if it makes the run fail. -/
theorem events_decide (p : Pipeline σ) (progress : Progress) (context : RunContext) (set : ArtifactSet) (s : σ) :
    (p.decide progress context set s).progress.events =
      progress.events ++ Event.ofVerdict (p.verdictOn set s) ++ [.gateDecided (p.decisionOn context set s)] ++
        fatalEvents (p.decisionOn context set s) := by
  unfold decide
  rw [events_recordFatal, events_recordUnauthorized]
  rfl

theorem events_recordPublish (published : List (Channel × Outcome × UInt64)) (p : Progress) :
    (published.foldl recordPublish p).events = p.events ++ published.map publishEvent := by
  induction published generalizing p with
  | nil => exact (List.append_nil _).symm
  | cons x rest ih =>
    rw [List.foldl_cons, ih, List.map_cons, List.append_cons]
    rfl

/-- What is told after the gate: each publish, and then that the run is finished, with the success that its report has. -/
theorem events_conclude (prepared : Prepared) (published : List (Channel × Outcome × UInt64)) (now : Timestamp) :
    (conclude prepared published now).events =
      prepared.progress.events ++ published.map publishEvent ++
        [.runFinished ((conclude prepared published now).report.durationMs now)
          (conclude prepared published now).report.succeeded] := by
  unfold conclude
  rw [Progress.events_finish, events_recordPublish]

/-! ## The last event -/

/-- The events up to the publishes do not say that the run is finished. -/
theorem unfinished_decide (p : Pipeline σ) {progress : Progress} (context : RunContext) (set : ArtifactSet) (s : σ)
    (h : progress.events.any Event.isRunFinished = false) :
    (p.decide progress context set s).progress.events.any Event.isRunFinished = false := by
  have verdict : ∀ v, (Event.ofVerdict v).any Event.isRunFinished = false := by
    intro v
    show (v.issues.map Event.verifyIssue).any Event.isRunFinished = false
    rw [List.any_map, List.any_eq_false]
    exact fun _ _ => nofun
  have fatal : ∀ d, (fatalEvents d).any Event.isRunFinished = false := by
    intro d
    unfold fatalEvents
    split <;> rfl
  rw [events_decide, List.any_append, List.any_append, List.any_append, h, verdict, fatal]
  rfl

theorem unfinished_publishes (published : List (Channel × Outcome × UInt64)) :
    (published.map publishEvent).any Event.isRunFinished = false := by
  rw [List.any_map, List.any_eq_false]
  exact fun _ _ => nofun

/-- The last event of every run, and no event before it, says that it is finished, and whether its report is one of success. -/
theorem finished_of_ends {p : Pipeline σ} {id : RunId} {t : Trigger} {s s' : σ} {published : List (Channel × Outcome × UInt64)}
    {progress : Progress} (h : p.Ends id t s published progress s') :
    ∃ before ms, progress.events = before ++ [.runFinished ms progress.report.succeeded] ∧
      before.any Event.isRunFinished = false := by
  cases h with
  | aborted h =>
    -- whatever has been told by then, a failure is, and it makes the report one without success
    have ended : ∀ (q : Progress) failed e durationMs now, q.events.any Event.isRunFinished = false →
        ∃ before ms, (q.abort failed e durationMs now).events =
          before ++ [.runFinished ms (q.abort failed e durationMs now).report.succeeded] ∧
            before.any Event.isRunFinished = false := by
      intro q failed e durationMs now unfinished
      have failure : (q.abort failed e durationMs now).report.succeeded = false := by
        rw [Progress.report_abort]
        rfl
      rw [failure]
      refine ⟨_, _, q.events_abort failed e durationMs now, ?_⟩
      rw [List.any_append, unfinished]
      rfl
    cases prepares_of_prepare h with
    | refused classified => exact ended _ _ _ _ _ rfl
    | unresolved classified resolved => exact ended _ _ _ _ _ rfl
    | unbuilt classified resolved built => exact ended _ _ _ _ _ rfl
  | concluded h done =>
    refine ⟨_, _, events_conclude _ _ _, ?_⟩
    cases prepares_of_prepare h with
    | built built resolved =>
      rw [List.any_append, unfinished_publishes, unfinished_decide _ _ _ _ rfl]
      rfl

end Pipeline

end ReleaseGate
