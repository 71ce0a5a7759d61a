import ReleaseGate.Failure
import ReleaseGate.Text.Lines

/-!
# Resolving the version

The version of a run on a tag is the tag. Every other run asks a derivation tool, of whose output the last line that is not
blank is the candidate; a local segment, from the first plus sign on, is cut off because registries refuse it. There is no
fallback: a run without a version ends.
-/

namespace ReleaseGate

namespace Resolver

/-- Where a local segment begins. -/
def localMark : Char := '+'

/-- The last line of a text that is not blank, without the blanks around it. -/
def lastLine? (raw : List Char) : Option (List Char) :=
  (((Text.lines raw).map Text.trim).filter fun line => !line.isEmpty).getLast?

/-- A text up to its local segment. -/
def publicPart (line : List Char) : List Char :=
  match Text.cutAtFirst (· == localMark) line with
  | some (before, _, _) => before
  | none => line

/-- The version that the output of a derivation tool names. -/
def normalize (raw : String) : Except ResolutionError Version :=
  match lastLine? raw.toList with
  | none => .error .noOutput
  | some line =>
    match Version.parse (String.ofList (publicPart line)) with
    | .ok v => .ok v
    | .error e => .error (.candidate e)

/-- The version that a tag names. -/
def ofTag (tag : String) : Except ResolutionError Version :=
  match Version.parse tag with
  | .ok v => .ok v
  | .error e => .error (.tag tag e)

/-- The version of a run with a given context. The source is asked only when the context has no tag. -/
def resolve {σ : Type} (source : σ → Except Failure String × σ) (c : RunContext) (s : σ) : Except Failure Version × σ :=
  match c.tagName? with
  | some tag => ((ofTag tag).mapError .versionResolution, s)
  | none =>
    match source s with
    | (.ok raw, s) => ((normalize raw).mapError .versionResolution, s)
    | (.error e, s) => (.error e, s)

end Resolver

/-- A derivation tool, with the directory it runs in. -/
structure CommandSource where
  command : List String
  directory : Path

namespace CommandSource

/-- The output of a tool that ended, if it ended well. -/
def outputOf (program : String) : CommandResult → Except ResolutionError String
  | .notStarted e => .error (.toolUnavailable program e)
  | .ended status output errorOutput =>
    if status.isSuccess then .ok (Text.Utf8.decodeLossy output)
    else .error (.toolFailed program status (Text.trimmed (Text.Utf8.decodeLossy errorOutput)))

/-- Runs the tool. -/
def derive (c : CommandSource) (runner : CommandRunner) (cwd : Place) (environment : Environment) (fs : FileSystem) :
    Except Failure String × FileSystem :=
  match c.command with
  | [] => (.error (.versionResolution .emptyCommand), fs)
  | program :: arguments =>
    let (result, fs) := runner cwd { program, arguments, directory := c.directory, environment } fs
    ((outputOf program result).mapError .versionResolution, fs)

end CommandSource

end ReleaseGate
