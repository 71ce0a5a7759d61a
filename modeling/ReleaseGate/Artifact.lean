import ReleaseGate.Files.Path
import ReleaseGate.Version

/-!
# Artifact sets

An artifact set holds the distributable files that one build left in the directory of its version, with the two bookkeeping files
beside them: the recorded checksums and the package descriptor. A set does not change once it is loaded; the verifier and the
publishers only read it.
-/

namespace ReleaseGate

/-- One distributable file. -/
structure Artifact where
  fileName : String
  path : Path
  size : UInt64
  /-- The SHA-256 digest of the content when the set was loaded, in lower-case hexadecimal. -/
  sha256 : String
  deriving DecidableEq, Repr

/-- The package metadata that the artifacts carry. -/
structure Descriptor where
  name : String
  version : String
  summary : String
  longDescription : String
  contentType : String
  deriving DecidableEq, Repr

/-- What a checksum file records. -/
structure Checksums where
  /-- The digest for each file name, in increasing order of the names. -/
  entries : List (String × String) := []
  /-- The lines that record nothing. -/
  malformed : List String := []
  deriving DecidableEq, Repr

/-- The distributable files of one build. -/
structure ArtifactSet where
  version : Version
  dir : Path
  artifacts : List Artifact
  descriptor : Option Descriptor
  checksums : Option Checksums
  deriving DecidableEq

namespace ArtifactSet

/-- Whether a set has no files. -/
def isEmpty (s : ArtifactSet) : Bool := s.artifacts.isEmpty

/-- The size of all files of a set together. -/
def totalBytes (s : ArtifactSet) : UInt64 := s.artifacts.foldr (fun a bytes => a.size + bytes) 0

end ArtifactSet

end ReleaseGate
