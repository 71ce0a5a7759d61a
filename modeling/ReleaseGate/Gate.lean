import ReleaseGate.Context
import ReleaseGate.Decision
import ReleaseGate.Text.LetterCase

/-!
# The promotion gate

The gate is a decision table over the run context and the verdict of verification. A published release may go to both channels, a
push to the trunk of the canonical repository to staging, and a run started by hand nowhere; a failed verification closes every
channel that was open.
-/

namespace ReleaseGate

/-- The repository and the branch whose pushes may go to staging. -/
structure GatePolicy where
  /-- The repository as owner and name. Forks never publish. -/
  canonicalRepository : String
  trunkBranch : String := "main"
  deriving DecidableEq, Repr

namespace GatePolicy

/-- Whether a repository is the canonical one, white space around the names and the case of ASCII letters aside. -/
def isCanonical (p : GatePolicy) (repository : String) : Bool :=
  Text.sameIgnoringCase (Text.trimmed p.canonicalRepository) (Text.trimmed repository)

/-- Whether a ref names the trunk branch, bare or fully qualified. -/
def isTrunk (p : GatePolicy) (ref : String) : Bool :=
  let trunk := Text.trimmed p.trunkBranch
  let ref := Text.trimmed ref
  ref == trunk || Text.withoutStart? branchStart ref == some trunk

/-- What a run may publish if its verification passes. -/
def eligibility (p : GatePolicy) (c : RunContext) : Decision :=
  match c.eventKind with
  | .manualDispatch => .noPublish .manualDispatch
  | .releasePublished => .stagingAndProduction
  | .push =>
    if !p.isCanonical c.repository then
      .noPublish (.ineligible s!"repository {c.repository} is not {p.canonicalRepository}")
    else if c.isTagRef || !p.isTrunk c.gitRef then
      .noPublish (.ineligible s!"ref {c.gitRef} is not trunk branch {p.trunkBranch}")
    else .stagingOnly

/-- What a run may publish. -/
def decision (p : GatePolicy) (c : RunContext) (verdict : Verdict) : Decision :=
  match p.eligibility c, verdict with
  | .noPublish reason, _ => .noPublish reason
  | eligible, .pass => eligible
  | _, .fail issues => .noPublish (.verificationFailed issues)

end GatePolicy

end ReleaseGate
