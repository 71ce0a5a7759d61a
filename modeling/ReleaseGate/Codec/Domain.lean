import ReleaseGate.Artifact.Checksums
import ReleaseGate.Codec.Basic
import ReleaseGate.Context
import ReleaseGate.Decision
import ReleaseGate.Gate
import ReleaseGate.Json.TextRecord
import ReleaseGate.Trigger

/-!
# Stored forms of the domain

How each type of the domain is stored as JSON, and how it is read back. Fields are stored in the order in which they are
declared. A version is checked, and trimmed, when it is read.
-/

namespace ReleaseGate.Codec

open Json

/-- A version as it is stored. -/
def ofVersion (v : Version) : Json := str v.text

/-- The version that a value stands for. -/
def version? (j : Json) : Option Version := (text? j).bind fun s => (Version.parse s).toOption

/-- A kind of event as it is stored. -/
def ofEventKind (k : EventKind) : Json := str k.name

/-- The kind of event that a value stands for. -/
def eventKind? : Json → Option EventKind := named? EventKind.ofName?

/-- A run context as it is stored. -/
def ofContext (c : RunContext) : Json :=
  object [("event_kind", ofEventKind c.eventKind), ("git_ref", str c.gitRef), ("repository", str c.repository),
    ("is_tag_ref", bool c.isTagRef)]

/-- The run context that a value stands for. -/
def context? (j : Json) : Option RunContext :=
  (fields? ["event_kind", "git_ref", "repository", "is_tag_ref"] j).bind fun
    | [k, r, p, t] => do
      let eventKind ← required eventKind? k
      let gitRef ← required text? r
      let repository ← required text? p
      let isTagRef ← required flag? t
      pure { eventKind, gitRef, repository, isTagRef }
    | _ => none

/-- A trigger as it is stored. -/
def ofTrigger (t : Trigger) : Json :=
  object [("event_name", str t.eventName), ("git_ref", str t.gitRef), ("repository", str t.repository),
    ("ref_type", ofText? t.refType), ("lifecycle_action", ofText? t.lifecycleAction), ("manual_dispatch", bool t.manualDispatch)]

/-- The trigger that a value stands for. -/
def trigger? (j : Json) : Option Trigger :=
  (fields? ["event_name", "git_ref", "repository", "ref_type", "lifecycle_action", "manual_dispatch"] j).bind fun
    | [n, r, p, y, a, m] => do
      let eventName ← required text? n
      let gitRef ← required text? r
      let repository ← required text? p
      let refType ← optional text? y
      let lifecycleAction ← optional text? a
      let manualDispatch ← required flag? m
      pure { eventName, gitRef, repository, refType, lifecycleAction, manualDispatch }
    | _ => none

/-- A gate policy as it is stored. -/
def ofPolicy (p : GatePolicy) : Json :=
  object [("canonical_repository", str p.canonicalRepository), ("trunk_branch", str p.trunkBranch)]

/-- The gate policy that a value stands for. -/
def policy? (j : Json) : Option GatePolicy :=
  (fields? ["canonical_repository", "trunk_branch"] j).bind fun
    | [r, b] => do
      let canonicalRepository ← required text? r
      let trunkBranch ← required text? b
      pure { canonicalRepository, trunkBranch }
    | _ => none

/-- A channel as it is stored. -/
def ofChannel (c : Channel) : Json := str c.name

/-- The channel that a value stands for. -/
def channel? : Json → Option Channel := named? Channel.ofName?

/-- A family of checks as it is stored. -/
def ofFamily (f : CheckFamily) : Json := str f.name

/-- The family of checks that a value stands for. -/
def family? : Json → Option CheckFamily := named? CheckFamily.ofName?

/-- A finding as it is stored. -/
def ofIssue (i : Issue) : Json :=
  object [("check", ofFamily i.family), ("subject", str i.subject), ("detail", str i.detail)]

/-- The finding that a value stands for. -/
def issue? (j : Json) : Option Issue :=
  (fields? ["check", "subject", "detail"] j).bind fun
    | [c, s, d] => do
      let family ← required family? c
      let subject ← required text? s
      let detail ← required text? d
      pure { family, subject, detail }
    | _ => none

/-- A verdict as it is stored. -/
def ofVerdict : Verdict → Json
  | .pass => object [("result", str "pass")]
  | .fail issues => object [("result", str "fail"), ("issues", ofList ofIssue issues)]

/-- The verdict that a value stands for. -/
def verdict? (j : Json) : Option Verdict :=
  (tagged? "result" "issues" j).bind fun
    | ("pass", content) => bare .pass content
    | ("fail", content) => (required (list? issue?) content).map .fail
    | _ => none

/-- A reason to publish nothing as it is stored. -/
def ofReason : NoPublishReason → Json
  | .ineligible why => object [("reason", str "ineligible"), ("detail", str why)]
  | .manualDispatch => object [("reason", str "manual_dispatch")]
  | .verificationFailed issues => object [("reason", str "verification_failed"), ("detail", ofList ofIssue issues)]

/-- The reason to publish nothing that a value stands for. -/
def reason? (j : Json) : Option NoPublishReason :=
  (tagged? "reason" "detail" j).bind fun
    | ("ineligible", content) => (required text? content).map .ineligible
    | ("manual_dispatch", content) => bare .manualDispatch content
    | ("verification_failed", content) => (required (list? issue?) content).map .verificationFailed
    | _ => none

/-- A decision as it is stored. -/
def ofDecision : Decision → Json
  | .noPublish reason => object [("decision", str "no_publish"), ("reason", ofReason reason)]
  | .stagingOnly => object [("decision", str "staging_only")]
  | .stagingAndProduction => object [("decision", str "staging_and_production")]

/-- The tag of a decision and its reason, if it has one. The tag stands among the fields of the decision, or before them in an
array. -/
def decisionParts? : Json → Option (String × Option Json × Nat)
  | .object members =>
    match valuesOf "decision" members, valuesOf "reason" members with
    | [.str tag], [] => some (tag, none, 0)
    | [.str tag], [reason] => some (tag, some reason, 0)
    | [.str tag], _ => if tag == "no_publish" then none else some (tag, none, 0)
    | _, _ => none
  | .array (.str tag :: rest) => some (tag, rest.head?, rest.length)
  | _ => none

/-- The decision that a value stands for. -/
def decision? (j : Json) : Option Decision :=
  (decisionParts? j).bind fun
    | ("no_publish", reason, extra) => if extra ≤ 1 then (required reason? reason).map .noPublish else none
    | ("staging_only", _, extra) => if extra = 0 then some .stagingOnly else none
    | ("staging_and_production", _, extra) => if extra = 0 then some .stagingAndProduction else none
    | _ => none

/-- An outcome as it is stored. -/
def ofOutcome : Outcome → Json
  | .succeeded => object [("outcome", str "succeeded")]
  | .skippedExisting => object [("outcome", str "skipped_existing")]
  | .failed reason => object [("outcome", str "failed"), ("reason", str reason)]

/-- The outcome that a value stands for. -/
def outcome? (j : Json) : Option Outcome :=
  (tagged? "outcome" "reason" j).bind fun
    | ("succeeded", content) => bare .succeeded content
    | ("skipped_existing", content) => bare .skippedExisting content
    | ("failed", content) => (required text? content).map .failed
    | _ => none

/-- A path as it is stored. -/
def ofPath (p : Path) : Json := str p.text

/-- The path that a value stands for. -/
def path? (j : Json) : Option Path := (text? j).map Path.mk

/-- A number of 64 bits as it is stored. -/
def ofWord (n : UInt64) : Json := natural n.toNat

/-- An artifact as it is stored. -/
def ofArtifact (a : Artifact) : Json :=
  object [("file_name", str a.fileName), ("path", ofPath a.path), ("size", ofWord a.size), ("sha256", str a.sha256)]

/-- The artifact that a value stands for. -/
def artifact? (j : Json) : Option Artifact :=
  (fields? ["file_name", "path", "size", "sha256"] j).bind fun
    | [n, p, s, d] => do
      let fileName ← required text? n
      let path ← required path? p
      let size ← required word? s
      let sha256 ← required text? d
      pure { fileName, path, size, sha256 }
    | _ => none

/-- A descriptor as it is stored. -/
def ofDescriptor (d : Descriptor) : Json :=
  object [("name", str d.name), ("version", str d.version), ("summary", str d.summary),
    ("long_description", str d.longDescription), ("long_description_content_type", str d.contentType)]

/-- The record that a descriptor is stored as. -/
def descriptorRecord : TextRecord :=
  { name := "struct PackageDescriptor"
    fields := ["name", "version", "summary", "long_description", "long_description_content_type"] }

/-- The descriptor whose fields hold some texts, in order. -/
def descriptorOfTexts (texts : List String) : Descriptor :=
  let text (i : Nat) : String := texts.getD i ""
  { name := text 0, version := text 1, summary := text 2, longDescription := text 3, contentType := text 4 }

/-- The descriptor that a value stands for. -/
def descriptor? (j : Json) : Option Descriptor :=
  (fields? descriptorRecord.fields j).bind fun
    | [n, v, s, l, t] => do
      let name ← required text? n
      let version ← required text? v
      let summary ← required text? s
      let longDescription ← required text? l
      let contentType ← required text? t
      pure { name, version, summary, longDescription, contentType }
    | _ => none

/-- Recorded checksums as they are stored. -/
def ofChecksums (c : Checksums) : Json :=
  object [("entries", object (c.entries.map fun (name, digest) => (name, str digest))), ("malformed", ofList str c.malformed)]

/-- The entries that the members of an object stand for. The last member of a name counts. -/
def entries? : Json → Option (List (String × String))
  | .object members =>
    members.foldlM (fun entries (name, value) => (text? value).map fun digest => Checksums.insertEntry name digest entries) []
  | _ => none

/-- The recorded checksums that a value stands for. -/
def checksums? (j : Json) : Option Checksums :=
  (fields? ["entries", "malformed"] j).bind fun
    | [e, m] => do
      let entries ← required entries? e
      let malformed ← required (list? text?) m
      pure { entries, malformed }
    | _ => none

/-- An artifact set as it is stored. -/
def ofArtifactSet (s : ArtifactSet) : Json :=
  object [("version", ofVersion s.version), ("dir", ofPath s.dir), ("artifacts", ofList ofArtifact s.artifacts),
    ("descriptor", ofOption ofDescriptor s.descriptor), ("checksums", ofOption ofChecksums s.checksums)]

/-- The artifact set that a value stands for. -/
def artifactSet? (j : Json) : Option ArtifactSet :=
  (fields? ["version", "dir", "artifacts", "descriptor", "checksums"] j).bind fun
    | [v, d, a, s, c] => do
      let version ← required version? v
      let dir ← required path? d
      let artifacts ← required (list? artifact?) a
      let descriptor ← optional descriptor? s
      let checksums ← optional checksums? c
      pure { version, dir, artifacts, descriptor, checksums }
    | _ => none

end ReleaseGate.Codec
