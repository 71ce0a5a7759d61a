/-!
# Findings of a verification

Verification is strict: there are no warnings, and an artifact set passes when no check of any family found anything.
-/

namespace ReleaseGate

/-- The families of checks. -/
inductive CheckFamily where
  /-- The set has files, each readable and not empty. -/
  | contents
  /-- The checksum file is there and agrees with the files. -/
  | checksums
  /-- File names and descriptor carry the version and the package of the set. -/
  | attribution
  /-- The fields of the descriptor are filled in. -/
  | descriptor
  /-- The long description is well formed for its content type. -/
  | markup
  deriving DecidableEq, Repr, Inhabited

namespace CheckFamily

/-- The families, in the order in which they are checked. -/
def all : List CheckFamily := [.contents, .checksums, .attribution, .descriptor, .markup]

/-- The name of a family in reports and messages. -/
def name : CheckFamily → String
  | .contents => "contents"
  | .checksums => "checksums"
  | .attribution => "attribution"
  | .descriptor => "descriptor"
  | .markup => "markup"

/-- The family of a name. -/
def ofName? (s : String) : Option CheckFamily := all.find? (·.name == s)

@[simp] theorem ofName?_name (f : CheckFamily) : ofName? f.name = some f := by cases f <;> decide

end CheckFamily

/-- One finding, which fails the set. -/
structure Issue where
  family : CheckFamily
  /-- The file or the field that it is about. -/
  subject : String
  detail : String
  deriving DecidableEq, Repr

/-- The line that shows a finding. -/
def Issue.line (i : Issue) : String := s!"[{i.family.name}] {i.subject}: {i.detail}"

/-- The verdict on an artifact set. -/
inductive Verdict where
  | pass
  | fail (issues : List Issue)
  deriving DecidableEq, Repr

namespace Verdict

/-- The verdict on a set with the given findings: no finding means a pass. -/
def ofIssues (issues : List Issue) : Verdict := if issues.isEmpty then .pass else .fail issues

/-- Whether a verdict is a pass. -/
def passed : Verdict → Bool
  | .pass => true
  | .fail _ => false

/-- The findings of a verdict. -/
def issues : Verdict → List Issue
  | .pass => []
  | .fail issues => issues

@[simp] theorem issues_ofIssues (is : List Issue) : (ofIssues is).issues = is := by
  cases is <;> rfl

@[simp] theorem passed_ofIssues (is : List Issue) : (ofIssues is).passed = is.isEmpty := by
  cases is <;> rfl

theorem ofIssues_eq_pass_iff (is : List Issue) : ofIssues is = .pass ↔ is = [] := by
  cases is <;> simp [ofIssues]

theorem passed_iff (v : Verdict) : v.passed = true ↔ v = .pass := by
  cases v <;> simp [passed]

end Verdict

/-- How a count of findings is worded. -/
def failedVerificationText (issues : List Issue) : String := s!"verification failed with {issues.length} issue(s)"

end ReleaseGate
