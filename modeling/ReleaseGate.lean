import ReleaseGate.Codec.Config
import ReleaseGate.Main
import ReleaseGate.Proofs.Version.Language
import ReleaseGate.Proofs.Version.NormalForm
import ReleaseGate.Proofs.Version.Candidates
import ReleaseGate.Proofs.Version.Prerelease
import ReleaseGate.Proofs.Verification.Passing
import ReleaseGate.Proofs.Markup.Blocks
import ReleaseGate.Proofs.Markup.LineEnds
import ReleaseGate.Proofs.Naming.Alphabet
import ReleaseGate.Proofs.Naming.Spellings
import ReleaseGate.Proofs.Gate.Classification
import ReleaseGate.Proofs.Publish.Authorization
import ReleaseGate.Proofs.Report.RoundTrip
import ReleaseGate.Proofs.Report.Tables
import ReleaseGate.Proofs.Naming.Archives
import ReleaseGate.Proofs.Run.Previews
import ReleaseGate.Proofs.Gate.Table
import ReleaseGate.Proofs.Publish.Answers
import ReleaseGate.Proofs.Publish.Tags
import ReleaseGate.Proofs.Run.Repetition
import ReleaseGate.Proofs.Config.Secrets
import ReleaseGate.Proofs.Artifact.ChecksumRoundTrip
import ReleaseGate.Proofs.Artifact.Enumeration
import ReleaseGate.Proofs.Build.Confinement
import ReleaseGate.Proofs.Build.Placeholders
