import ReleaseGate.Failure
import ReleaseGate.Files.FileSystem
import ReleaseGate.Files.Sha256

/-!
# Digests of files

The digest of a file is that of its content at the time of asking.
-/

namespace ReleaseGate

/-- The SHA-256 digest of the file that a path leads to, in lower-case hexadecimal. -/
def digestOf (fs : FileSystem) (cwd : Place) (path : Path) : Except Failure String :=
  match fs.readBytes cwd path with
  | .ok bytes => .ok (Sha256.hexDigest bytes)
  | .error e => .error (.io e)

end ReleaseGate
