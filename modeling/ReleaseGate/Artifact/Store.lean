import ReleaseGate.Artifact.Digest
import ReleaseGate.Codec.Domain
import ReleaseGate.Json.Printer
import ReleaseGate.Json.Reader
import ReleaseGate.Verifier

/-!
# Artifact sets on disk

`load` makes an artifact set of a directory: every regular file but the bookkeeping files is an artifact, digested as it is read,
and the artifacts are in the order of their names. A bookkeeping file that is missing is no error here; the verifier reports it.
-/

namespace ReleaseGate.ArtifactSet

/-- Whether an entry of a directory is one of the bookkeeping files. -/
def isBookkeeping (name : String) : Bool := name == Checksums.fileName || name == Verifier.descriptorFileName

/-- The artifact that an entry of a directory is, if it is one. -/
def artifactOf? (fs : FileSystem) (cwd : Place) (dir : Path) (name : String) (node : Node) : Except Failure (Option Artifact) :=
  match node with
  | .file bytes _ =>
    if isBookkeeping name then .ok none
    else
      let path := dir.entry name
      (digestOf fs cwd path).map fun sha256 => some { fileName := name, path, size := bytes.length.toUInt64, sha256 }
  | _ => .ok none

/-- The artifacts among the entries of a directory, in the order of the entries. -/
def artifactsOf (fs : FileSystem) (cwd : Place) (dir : Path) : List (String × Node) → Except Failure (List Artifact)
  | [] => .ok []
  | (name, node) :: rest =>
    (artifactOf? fs cwd dir name node).bind fun found =>
      (artifactsOf fs cwd dir rest).map fun more => found.toList ++ more

/-- Artifacts in the order of their names. -/
def sorted (artifacts : List Artifact) : List Artifact := artifacts.mergeSort fun a b => a.fileName ≤ b.fileName

/-- What the checksum file of a directory records, if there is one. -/
def loadChecksums (fs : FileSystem) (cwd : Place) (dir : Path) : Except Failure (Option Checksums) :=
  let path := dir.entry Checksums.fileName
  if fs.isFile cwd path then
    match fs.readText cwd path with
    | .ok text => .ok (some (Checksums.parse text))
    | .error e => .error (.io e)
  else .ok none

/-- The descriptor that some bytes hold. Bytes that are no JSON as a whole may still hold one among members that are not looked
at; otherwise they have a fault. -/
def decodeDescriptor (bytes : List UInt8) : Except Failure Descriptor :=
  match (Text.Utf8.decode bytes).bind fun text => (Json.parse? text).bind Codec.descriptor? with
  | some d => .ok d
  | none =>
    match Codec.descriptorRecord.read bytes with
    | .ok texts => .ok (Codec.descriptorOfTexts texts)
    | .error fault => .error (.serialization fault)

/-- The descriptor of a directory, if there is one. -/
def loadDescriptor (fs : FileSystem) (cwd : Place) (dir : Path) : Except Failure (Option Descriptor) :=
  let path := dir.entry Verifier.descriptorFileName
  if fs.isFile cwd path then
    match fs.readBytes cwd path with
    | .ok bytes => (decodeDescriptor bytes).map some
    | .error e => .error (.io e)
  else .ok none

/-- The artifact set of a directory, for a version. -/
def load (fs : FileSystem) (cwd : Place) (dir : Path) (version : Version) : Except Failure ArtifactSet :=
  match fs.list cwd dir with
  | .error e => .error (.io e)
  | .ok entries =>
    (artifactsOf fs cwd dir entries).bind fun artifacts =>
      (loadChecksums fs cwd dir).bind fun checksums =>
        (loadDescriptor fs cwd dir).map fun descriptor =>
          { version, dir, artifacts := sorted artifacts, descriptor, checksums }

/-- The file system with the checksums of some artifacts recorded in a directory. -/
def writeChecksums (fs : FileSystem) (cwd : Place) (dir : Path) (artifacts : List Artifact) : Except OsError FileSystem :=
  fs.writeBytes cwd (dir.entry Checksums.fileName) (Text.Utf8.encode (Checksums.print artifacts))

/-- The text of a descriptor file. -/
def descriptorText (d : Descriptor) : String := (Codec.ofDescriptor d).pretty

/-- The file system with a descriptor recorded in a directory. -/
def writeDescriptor (fs : FileSystem) (cwd : Place) (dir : Path) (d : Descriptor) : Except OsError FileSystem :=
  fs.writeBytes cwd (dir.entry Verifier.descriptorFileName) (Text.Utf8.encode (descriptorText d))

end ReleaseGate.ArtifactSet
