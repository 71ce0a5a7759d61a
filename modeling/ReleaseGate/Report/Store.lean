import ReleaseGate.Codec.Report
import ReleaseGate.Files.FileSystem
import ReleaseGate.Report.Summary

/-!
# Reports on disk

A report is written as one file of JSON. Its summary is added to a file that other steps of a job also add to.
-/

namespace ReleaseGate.RunReport

/-- The file system with a report in a file. -/
def write (r : RunReport) (fs : FileSystem) (cwd : Place) (path : Path) : Except OsError FileSystem :=
  fs.writeBytes cwd path (Text.Utf8.encode (Codec.reportText r))

/-- The file system with the summary of a report added to a file. -/
def appendSummary (r : RunReport) (fs : FileSystem) (cwd : Place) (path : Path) : Except OsError FileSystem :=
  fs.appendBytes cwd path (Text.Utf8.encode r.summary)

end ReleaseGate.RunReport
