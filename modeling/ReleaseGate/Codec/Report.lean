import ReleaseGate.Codec.Domain
import ReleaseGate.Json.Printer
import ReleaseGate.Report

/-!
# Stored forms of reports

How a run report is stored as JSON, and how it is read back.
-/

namespace ReleaseGate.Codec

open Json

/-- A task as it is stored. -/
def ofTask (t : Task) : Json := str t.name

/-- The task that a value stands for. -/
def task? : Json → Option Task := named? Task.ofName?

/-- The status of a task as it is stored. -/
def ofTaskStatus : TaskStatus → Json
  | .succeeded => object [("status", str "succeeded")]
  | .failed reason => object [("status", str "failed"), ("detail", str reason)]
  | .skipped reason => object [("status", str "skipped"), ("detail", str reason)]
  | .cancelled => object [("status", str "cancelled")]

/-- The status of a task that a value stands for. -/
def taskStatus? (j : Json) : Option TaskStatus :=
  (tagged? "status" "detail" j).bind fun
    | ("succeeded", content) => bare .succeeded content
    | ("failed", content) => (required text? content).map .failed
    | ("skipped", content) => (required text? content).map .skipped
    | ("cancelled", content) => bare .cancelled content
    | _ => none

/-- The record of a task as it is stored. -/
def ofTaskRecord (t : TaskRecord) : Json :=
  object [("task", ofTask t.task), ("status", ofTaskStatus t.status), ("duration_ms", ofWord t.durationMs)]

/-- The record of a task that a value stands for. -/
def taskRecord? (j : Json) : Option TaskRecord :=
  (fields? ["task", "status", "duration_ms"] j).bind fun
    | [t, s, d] => do
      let task ← required task? t
      let status ← required taskStatus? s
      let durationMs ← required word? d
      pure { task, status, durationMs }
    | _ => none

/-- What became of a channel as it is stored. -/
def ofChannelStatus : ChannelStatus → Json
  | .notAttempted reason => object [("status", str "not_attempted"), ("detail", str reason)]
  | .published outcome => object [("status", str "published"), ("detail", ofOutcome outcome)]
  | .failed reason => object [("status", str "failed"), ("detail", str reason)]
  | .cancelled => object [("status", str "cancelled")]

/-- What became of a channel, from the value that stands for it. -/
def channelStatus? (j : Json) : Option ChannelStatus :=
  (tagged? "status" "detail" j).bind fun
    | ("not_attempted", content) => (required text? content).map .notAttempted
    | ("published", content) => (required outcome? content).map .published
    | ("failed", content) => (required text? content).map .failed
    | ("cancelled", content) => bare .cancelled content
    | _ => none

/-- The channels of a report as they are stored. -/
def ofChannels (p : PerChannel (Option ChannelStatus)) : Json :=
  object (p.entries.map fun (c, s) => (c.name, ofChannelStatus s))

/-- The channels of a report that a value stands for. The last member of a name counts. -/
def channels? : Json → Option (PerChannel (Option ChannelStatus))
  | .object members =>
    members.foldlM
      (fun p (name, value) =>
        (Channel.ofName? name).bind fun c => (channelStatus? value).map fun s => p.set c (some s))
      (PerChannel.both none)
  | _ => none

/-- A timestamp as it is stored. -/
def ofTimestamp (t : Timestamp) : Json := str t.print

/-- The timestamp that a value stands for. -/
def timestamp? (j : Json) : Option Timestamp := (text? j).bind Timestamp.parse?

/-- An identifier of a run as it is stored. -/
def ofRunId (id : RunId) : Json := str id.print

/-- The identifier of a run that a value stands for. -/
def runId? (j : Json) : Option RunId := (text? j).bind RunId.parse?

/-- The names of the fields of a report. -/
def reportFields : List String :=
  ["schema_version", "run_id", "started_at", "finished_at", "context", "version", "artifacts", "verification", "decision",
   "channels", "tasks", "error"]

/-- A report as it is stored. -/
def ofReport (r : RunReport) : Json :=
  object [("schema_version", str r.schemaVersion), ("run_id", ofRunId r.runId), ("started_at", ofTimestamp r.startedAt),
    ("finished_at", ofOption ofTimestamp r.finishedAt), ("context", ofOption ofContext r.context),
    ("version", ofOption ofVersion r.version), ("artifacts", ofList ofArtifact r.artifacts),
    ("verification", ofOption ofVerdict r.verdict), ("decision", ofOption ofDecision r.decision),
    ("channels", ofChannels r.channels), ("tasks", ofList ofTaskRecord r.tasks), ("error", ofText? r.error)]

/-- The report that a value stands for. -/
def report? (j : Json) : Option RunReport :=
  (fields? reportFields j).bind fun
    | [sv, id, st, fi, cx, ve, ar, vd, de, ch, ta, er] => do
      let schemaVersion ← required text? sv
      let runId ← required runId? id
      let startedAt ← required timestamp? st
      let finishedAt ← optional timestamp? fi
      let context ← optional context? cx
      let version ← optional version? ve
      let artifacts ← required (list? artifact?) ar
      let verdict ← optional verdict? vd
      let decision ← optional decision? de
      let channels ← required channels? ch
      let tasks ← required (list? taskRecord?) ta
      let error ← optional text? er
      pure { schemaVersion, runId, startedAt, finishedAt, context, version, artifacts, verdict, decision, channels, tasks, error }
    | _ => none

/-- The text of a stored report. -/
def reportText (r : RunReport) : String := (ofReport r).pretty

end ReleaseGate.Codec
