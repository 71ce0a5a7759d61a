import ReleaseGate.Text.Lines

/-!
# Run contexts

A `RunContext` says what started a run: the kind of event, the ref as the runtime gave it, the repository, and whether the ref
names a tag. A tag ref has a tag name and no branch name, a branch ref the reverse.
-/

namespace ReleaseGate

/-- The closed set of kinds of events that start a run. -/
inductive EventKind where
  /-- A push to a branch or a tag. -/
  | push
  /-- A release reached its published state. -/
  | releasePublished
  /-- A person started the run. -/
  | manualDispatch
  deriving DecidableEq, Repr, Inhabited

namespace EventKind

/-- The kinds of events. -/
def all : List EventKind := [.push, .releasePublished, .manualDispatch]

/-- The name of a kind of event in reports and messages. -/
def name : EventKind → String
  | .push => "push"
  | .releasePublished => "release_published"
  | .manualDispatch => "manual_dispatch"

/-- The kind of event of a name. Any other name has none: a default could open a way to production. -/
def ofName? (s : String) : Option EventKind := all.find? (·.name == s)

instance : ToString EventKind := ⟨name⟩

@[simp] theorem ofName?_name (k : EventKind) : ofName? k.name = some k := by cases k <;> decide

end EventKind

/-- What started a run. -/
structure RunContext where
  eventKind : EventKind
  /-- The ref as the runtime gave it. -/
  gitRef : String
  repository : String
  isTagRef : Bool
  deriving DecidableEq, Repr

/-- How a fully qualified tag ref begins. -/
def tagStart : String := "refs/tags/"

/-- How a fully qualified branch ref begins. -/
def branchStart : String := "refs/heads/"

/-- Whether a ref names a tag by its fully qualified form. -/
def isQualifiedTagRef (ref : String) : Bool := (Text.withoutStart? tagStart ref).isSome

namespace RunContext

/-- The name of the tag, for a tag ref. -/
def tagName? (c : RunContext) : Option String :=
  if c.isTagRef then some ((Text.withoutStart? tagStart c.gitRef).getD c.gitRef) else none

/-- The name of the branch, for a branch ref. -/
def branchName? (c : RunContext) : Option String :=
  if c.isTagRef then none else some ((Text.withoutStart? branchStart c.gitRef).getD c.gitRef)

end RunContext

end ReleaseGate
