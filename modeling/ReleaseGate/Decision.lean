import ReleaseGate.Channel
import ReleaseGate.Verification

/-!
# Promotion decisions

A decision authorizes both channels, staging only, or nothing for a reason. Production is authorized only together with staging. A
reason is fatal when the run would have published but for its verification. `Outcome` is the result of publishing to one channel.
-/

namespace ReleaseGate

/-- Why a run publishes nothing. -/
inductive NoPublishReason where
  /-- The trigger is eligible for no channel. -/
  | ineligible (why : String)
  /-- Runs started by hand build and verify only. -/
  | manualDispatch
  /-- The trigger was eligible and verification failed. -/
  | verificationFailed (issues : List Issue)
  deriving DecidableEq, Repr

namespace NoPublishReason

/-- Whether a reason fails the run. -/
def isFatal : NoPublishReason → Bool
  | .verificationFailed _ => true
  | _ => false

/-- The wording of a reason. -/
def text : NoPublishReason → String
  | .ineligible why => s!"ineligible: {why}"
  | .manualDispatch => "manual dispatch builds and verifies only"
  | .verificationFailed issues => failedVerificationText issues

end NoPublishReason

/-- Which channels a run may publish to. -/
inductive Decision where
  | noPublish (reason : NoPublishReason)
  | stagingOnly
  | stagingAndProduction
  deriving DecidableEq, Repr

namespace Decision

/-- Whether a decision authorizes a channel. -/
def allows : Decision → Channel → Bool
  | .noPublish _, _ => false
  | .stagingOnly, .staging => true
  | .stagingOnly, .production => false
  | .stagingAndProduction, _ => true

/-- The channels that a decision authorizes, staging first. -/
def channels (d : Decision) : List Channel := Channel.all.filter d.allows

/-- The reason of a decision that authorizes nothing. -/
def reason? : Decision → Option NoPublishReason
  | .noPublish reason => some reason
  | _ => none

/-- The wording of a decision. -/
def text : Decision → String
  | .noPublish reason => s!"no publish ({reason.text})"
  | .stagingOnly => "staging only"
  | .stagingAndProduction => "staging and production"

/-- Production is never authorized without staging. -/
theorem allows_staging_of_production {d : Decision} (h : d.allows .production = true) : d.allows .staging = true := by
  cases d <;> simp_all [allows]

end Decision

/-- The result of publishing an artifact set to one channel. -/
inductive Outcome where
  | succeeded
  /-- Every file was there already. -/
  | skippedExisting
  | failed (reason : String)
  deriving DecidableEq, Repr

namespace Outcome

/-- Whether a result counts as a success. -/
def isSuccess : Outcome → Bool
  | .failed _ => false
  | _ => true

/-- The wording of a result. -/
def text : Outcome → String
  | .succeeded => "succeeded"
  | .skippedExisting => "skipped (already published)"
  | .failed reason => s!"failed: {reason}"

end Outcome

end ReleaseGate
