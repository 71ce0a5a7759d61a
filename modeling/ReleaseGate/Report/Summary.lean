import ReleaseGate.Report

/-!
# Job summaries

The Markdown summary of a run: a heading with the verdict, the facts of the run as a list, and tables of the artifacts, the
channels and the tasks. Sections without content are left out.
-/

namespace ReleaseGate.RunReport

/-- A text as inline code. -/
def inlineCode (s : String) : String := "\x60" ++ s ++ "\x60"

/-- The heading of a summary. -/
def heading (r : RunReport) : String :=
  let verdict := if r.succeeded then "succeeded" else "failed"
  s!"# Shipgate run {verdict}\n\n"

/-- The items about the trigger of a run. -/
def contextItems (c : RunContext) : String :=
  s!"- event: {inlineCode c.eventKind.name}\n- ref: {inlineCode c.gitRef}\n- repository: {inlineCode c.repository}\n"

/-- The text for something that may be absent, empty when it is. -/
def textOf {α : Type} (f : α → String) (a : Option α) : String := (a.map f).getD ""

/-- The list of the facts of a run. -/
def facts (r : RunReport) : String :=
  textOf contextItems r.context ++ textOf (fun v => s!"- version: {inlineCode v.text}\n") r.version
    ++ textOf (fun d => s!"- decision: {d.text}\n") r.decision ++ textOf (fun e => s!"- error: {e}\n") r.error ++ "\n"

/-- The row of an artifact. -/
def artifactRow (a : Artifact) : String := s!"| {inlineCode a.fileName} | {a.size.toNat} | {inlineCode a.sha256} |\n"

/-- The texts of a list, one after another. -/
def concat {α : Type} (f : α → String) (as : List α) : String := String.join (as.map f)

/-- The section on the artifacts. -/
def artifactSection (artifacts : List Artifact) : String :=
  if artifacts.isEmpty then ""
  else "## Artifacts\n\n| file | bytes | sha256 |\n|---|---|---|\n" ++ concat artifactRow artifacts ++ "\n"

/-- The section on verification. -/
def verdictSection : Verdict → String
  | .pass => "## Verification\n\nAll checks passed.\n\n"
  | .fail issues => "## Verification\n\n" ++ concat (fun i => s!"- {i.line}\n") issues ++ "\n"

/-- The row of a channel. -/
def channelRow (c : Channel × ChannelStatus) : String := s!"| {c.1} | {c.2.text} |\n"

/-- The section on the channels. -/
def channelSection (r : RunReport) : String :=
  "## Channels\n\n| channel | status |\n|---|---|\n" ++ concat channelRow r.channels.entries

/-- The row of a task. -/
def taskRow (t : TaskRecord) : String := s!"| {t.task.name} | {t.status.text} | {t.durationMs.toNat} |\n"

/-- The section on the tasks. -/
def taskSection (tasks : List TaskRecord) : String :=
  if tasks.isEmpty then ""
  else "\n## Tasks\n\n| task | status | ms |\n|---|---|---|\n" ++ concat taskRow tasks

/-- The Markdown summary of a run. -/
def summary (r : RunReport) : String :=
  r.heading ++ r.facts ++ artifactSection r.artifacts ++ textOf verdictSection r.verdict ++ r.channelSection
    ++ taskSection r.tasks

end ReleaseGate.RunReport
