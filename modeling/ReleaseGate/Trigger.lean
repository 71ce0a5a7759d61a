import ReleaseGate.Context
import ReleaseGate.Text.Quoted

/-!
# Triggers

A trigger is what the invoking runtime says about a run, as raw texts. `classify` turns it into a run context. It reads nothing
else and has no default for what it does not recognise: an event, a release state, a ref type or a combination that no runtime
legitimately produces is refused.
-/

namespace ReleaseGate

/-- The raw inputs of a run. -/
structure Trigger where
  /-- The runtime's name of the event. -/
  eventName : String := ""
  gitRef : String := ""
  /-- The repository the run executes in, as owner and name. -/
  repository : String := ""
  /-- Whether the ref is a tag or a branch, when the runtime says so. -/
  refType : Option String := none
  /-- What happened to the release, when the event is one. -/
  lifecycleAction : Option String := none
  manualDispatch : Bool := false
  deriving DecidableEq, Repr

namespace Trigger

/-- Why a trigger is refused. -/
inductive Error where
  | unknownEvent (name : String)
  /-- The event is a release, in a state that is not published. -/
  | notPromotable (action : String)
  /-- The event is a release, and nothing says in which state. -/
  | noLifecycle
  /-- The run is marked as started by hand, and the event is another one. -/
  | manualConflict (eventName : String)
  | unknownRefType (refType : String)
  | emptyRef
  | emptyRepository
  /-- The event is a release, and the ref is no tag. -/
  | releaseOffTag (ref : String)
  deriving DecidableEq, Repr

/-- The wording of a refusal. -/
def Error.message : Error → String
  | .unknownEvent name => s!"unknown event kind: {Text.quoted name}"
  | .notPromotable action => s!"release lifecycle state {Text.quoted action} is not promotable"
  | .noLifecycle => "release event without lifecycle state"
  | .manualConflict name => s!"manual-dispatch flag set but event is {Text.quoted name}"
  | .unknownRefType refType => s!"unknown ref type: {Text.quoted refType}"
  | .emptyRef => "ref is empty"
  | .emptyRepository => "repository identity is empty"
  | .releaseOffTag ref => s!"release event must reference a tag, got {Text.quoted ref}"

/-- The state in which a release can be promoted. -/
def publishedAction : String := "published"

/-- The kind of event of a canonical name. -/
def namedKind (name : String) : Except Error EventKind :=
  match EventKind.ofName? name with
  | some kind => .ok kind
  | none => .error (.unknownEvent name)

/-- The kind of event of a trigger. The runtime's own names come first; a release must be in its published state, a run started by
hand may leave the name out, and any other name is read as a canonical one. -/
def eventKind (t : Trigger) : Except Error EventKind :=
  match Text.trimmed t.eventName with
  | "push" => .ok .push
  | "workflow_dispatch" => .ok .manualDispatch
  | "release" =>
    match t.lifecycleAction.map Text.trimmed with
    | some action => if action == publishedAction then .ok .releasePublished else .error (.notPromotable action)
    | none => .error .noLifecycle
  | name => if name.isEmpty && t.manualDispatch then .ok .manualDispatch else namedKind name

/-- Whether the ref of a trigger is a tag: what the runtime says, or else the form of the ref. -/
def isTagRef (t : Trigger) : Except Error Bool :=
  match t.refType.map Text.trimmed with
  | some "tag" => .ok true
  | some "branch" => .ok false
  | some other => .error (.unknownRefType other)
  | none => .ok (isQualifiedTagRef (Text.trimmed t.gitRef))

/-- The context of parts that are already known, without the white space around its texts. -/
def contextOf (kind : EventKind) (gitRef repository : String) (isTag : Bool) : Except Error RunContext :=
  let gitRef := Text.trimmed gitRef
  let repository := Text.trimmed repository
  if gitRef.isEmpty then .error .emptyRef
  else if repository.isEmpty then .error .emptyRepository
  else if kind = .releasePublished ∧ isTag = false then .error (.releaseOffTag gitRef)
  else .ok { eventKind := kind, gitRef, repository, isTagRef := isTag }

/-- The context of a run that a trigger starts. -/
def classify (t : Trigger) : Except Error RunContext :=
  t.eventKind.bind fun kind =>
    if t.manualDispatch && kind ≠ .manualDispatch then .error (.manualConflict t.eventName)
    else t.isTagRef.bind fun isTag => contextOf kind t.gitRef t.repository isTag

end Trigger

end ReleaseGate
