import ReleaseGate.Proofs.Gate.Eligibility

/-!
# What is classified as a published release

Only a published release opens production, so it matters which triggers are classified as one. `classify_release_iff` lists what
such a trigger has: its event is a release that the runtime says is published, or carries the canonical name of that kind of event;
it was not started by hand; and its ref is a tag. A release in any other state, or in none, is refused whatever else the trigger
says (`classify_of_unpublished`). But the state is looked at under the runtime's name of the event only. A trigger that carries the
canonical name is classified as a published release even when the runtime says that the release was deleted.
-/

namespace ReleaseGate

/-- A kind of event has one name. -/
theorem EventKind.ofName?_eq_some_iff (s : String) (k : EventKind) : ofName? s = some k ↔ s = k.name := by
  constructor
  · intro h
    have same := List.find?_some h
    exact (beq_iff_eq.mp same).symm
  · rintro rfl
    exact ofName?_name k

namespace Trigger

theorem namedKind_eq_ok_iff (name : String) (k : EventKind) : namedKind name = .ok k ↔ name = k.name := by
  rw [← EventKind.ofName?_eq_some_iff]
  unfold namedKind
  cases EventKind.ofName? name <;> simp

/-- The runtime's name of an event that concerns a release. -/
def releaseEvent : String := "release"

/-- What a trigger says about the state of a release. -/
def lifecycle (t : Trigger) : Option String := t.lifecycleAction.map Text.trimmed

/-- The event of a trigger is a release that is published: the runtime says so, or the event has the canonical name. -/
def NamesPublishedRelease (t : Trigger) : Prop :=
  Text.trimmed t.eventName = releaseEvent ∧ t.lifecycle = some publishedAction ∨
    Text.trimmed t.eventName = EventKind.releasePublished.name

/-- Why a release is refused that is not published, by what is said about its state. -/
def unpublishedError : Option String → Error
  | some action => .notPromotable action
  | none => .noLifecycle

/-- The kind of event of a release goes by its state alone. -/
theorem eventKind_of_release {t : Trigger} (release : Text.trimmed t.eventName = releaseEvent) :
    t.eventKind = if t.lifecycle = some publishedAction then .ok .releasePublished else .error (unpublishedError t.lifecycle) := by
  unfold eventKind
  rw [release]
  show (match t.lifecycle with
    | some action => if action == publishedAction then _ else _
    | none => _) = _
  cases t.lifecycle with
  | none => rfl
  | some action => by_cases same : action = publishedAction <;> simp [same, unpublishedError]

/-- An event that is no release of the runtime is a published release by its canonical name only. -/
theorem eventKind_eq_release_iff_of_other {t : Trigger} (other : Text.trimmed t.eventName ≠ releaseEvent) :
    t.eventKind = .ok .releasePublished ↔ Text.trimmed t.eventName = EventKind.releasePublished.name := by
  -- past the runtime's own names, of which none is the canonical name of a release, what is left is read as a canonical name
  unfold eventKind
  generalize Text.trimmed t.eventName = name at other
  split
  · exact ⟨nofun, fun h => absurd h (by decide)⟩
  · exact ⟨nofun, fun h => absurd h (by decide)⟩
  · exact absurd rfl other
  · split
    next empty =>
      refine ⟨nofun, fun h => ?_⟩
      rw [h] at empty
      exact absurd (Bool.and_eq_true_iff.mp empty).1 (by decide)
    next => exact namedKind_eq_ok_iff name .releasePublished

theorem eventKind_eq_release_iff (t : Trigger) : t.eventKind = .ok .releasePublished ↔ t.NamesPublishedRelease := by
  unfold NamesPublishedRelease
  by_cases release : Text.trimmed t.eventName = releaseEvent
  · have named : releaseEvent ≠ EventKind.releasePublished.name := by decide
    rw [eventKind_of_release release, release]
    by_cases published : t.lifecycle = some publishedAction <;> simp [published, named]
  · rw [eventKind_eq_release_iff_of_other release]
    simp [release]

/-- A context of a release has a tag for its ref, and texts that are not blank. -/
theorem contextOf_release_eq_ok_iff (gitRef repository : String) (isTag : Bool) (c : RunContext) :
    contextOf .releasePublished gitRef repository isTag = .ok c ↔
      isTag = true ∧ Text.trimmed gitRef ≠ "" ∧ Text.trimmed repository ≠ "" ∧
        c = ⟨.releasePublished, Text.trimmed gitRef, Text.trimmed repository, true⟩ := by
  unfold contextOf
  by_cases ref : Text.trimmed gitRef = ""
  · simp [ref]
  · by_cases home : Text.trimmed repository = ""
    · simp [ref, home]
    · cases isTag with
      | false => simp [ref, home]
      | true => simpa [ref, home] using eq_comm

theorem eventKind_of_contextOf {kind : EventKind} {gitRef repository : String} {isTag : Bool} {c : RunContext}
    (h : contextOf kind gitRef repository isTag = .ok c) : c.eventKind = kind := by
  simp only [contextOf] at h
  split at h
  · cases h
  · split at h
    · cases h
    · split at h
      · cases h
      · obtain rfl := Except.ok.inj h
        rfl

/-- What a trigger has that is classified. -/
theorem classify_eq_ok_iff (t : Trigger) (c : RunContext) :
    t.classify = .ok c ↔
      ∃ kind isTag, t.eventKind = .ok kind ∧ (t.manualDispatch = true → kind = .manualDispatch) ∧ t.isTagRef = .ok isTag ∧
        contextOf kind t.gitRef t.repository isTag = .ok c := by
  unfold classify
  cases t.eventKind with
  | error e => simp [Except.bind]
  | ok kind =>
    by_cases conflict : t.manualDispatch = true ∧ kind ≠ .manualDispatch
    · simp [Except.bind, conflict]
    · have agrees : t.manualDispatch = true → kind = .manualDispatch := fun manual =>
        Decidable.byContradiction fun other => conflict ⟨manual, other⟩
      cases t.isTagRef with
      | error e => simp [Except.bind, conflict]
      | ok isTag =>
        constructor
        · intro h
          exact ⟨kind, isTag, rfl, agrees, rfl, by simpa [Except.bind, conflict] using h⟩
        · rintro ⟨_, _, same, -, sameTag, parts⟩
          cases same
          cases sameTag
          simpa [Except.bind, conflict] using parts

/-- The triggers that are classified as a published release, and the contexts that they have. -/
theorem classify_release_iff (t : Trigger) (c : RunContext) :
    t.classify = .ok c ∧ c.eventKind = .releasePublished ↔
      t.NamesPublishedRelease ∧ t.manualDispatch = false ∧ t.isTagRef = .ok true ∧ Text.trimmed t.gitRef ≠ "" ∧
        Text.trimmed t.repository ≠ "" ∧ c = ⟨.releasePublished, Text.trimmed t.gitRef, Text.trimmed t.repository, true⟩ := by
  rw [← eventKind_eq_release_iff, classify_eq_ok_iff]
  constructor
  · rintro ⟨⟨kind, isTag, named, manual, tag, parts⟩, release⟩
    obtain rfl := (eventKind_of_contextOf parts).symm.trans release
    obtain ⟨rfl, ref, home, context⟩ := (contextOf_release_eq_ok_iff _ _ _ _).mp parts
    have byHand : t.manualDispatch = false := Bool.eq_false_iff.mpr fun set => nomatch manual set
    exact ⟨named, byHand, tag, ref, home, context⟩
  · rintro ⟨named, byHand, tag, ref, home, rfl⟩
    refine ⟨⟨.releasePublished, true, named, fun set => ?_, tag, ?_⟩, rfl⟩
    · exact absurd (byHand.symm.trans set) Bool.false_ne_true
    · exact (contextOf_release_eq_ok_iff _ _ _ _).mpr ⟨rfl, ref, home, rfl⟩

/-- A release that is not published is refused for its state, whatever else the trigger says. -/
theorem classify_of_unpublished {t : Trigger} (release : Text.trimmed t.eventName = releaseEvent)
    (unpublished : t.lifecycle ≠ some publishedAction) : t.classify = .error (unpublishedError t.lifecycle) := by
  unfold classify
  rw [eventKind_of_release release, if_neg unpublished]
  rfl

/-- A trigger is classified as a published release just when its event is one, it was not started by hand, and its ref is a tag; and
the runtime's event of a release in any other state is refused. -/
theorem releases_classified (t : Trigger) :
    (∀ c, t.classify = .ok c ∧ c.eventKind = .releasePublished ↔
      t.NamesPublishedRelease ∧ t.manualDispatch = false ∧ t.isTagRef = .ok true ∧ Text.trimmed t.gitRef ≠ "" ∧
        Text.trimmed t.repository ≠ "" ∧ c = ⟨.releasePublished, Text.trimmed t.gitRef, Text.trimmed t.repository, true⟩) ∧
      (Text.trimmed t.eventName = releaseEvent → t.lifecycle ≠ some publishedAction →
        t.classify = .error (unpublishedError t.lifecycle)) := by
  refine ⟨classify_release_iff t, fun release unpublished => ?_⟩
  exact classify_of_unpublished release unpublished

/-- A release that was deleted, under the canonical name of the event. -/
def deletedRelease : Trigger :=
  { eventName := "release_published", gitRef := "refs/tags/v1.0.0", repository := "acme/widget"
    lifecycleAction := some "deleted" }

/-- Under the canonical name of the event a release is classified as published that the runtime says was deleted. -/
theorem classify_deleted_release :
    deletedRelease.classify = .ok ⟨.releasePublished, "refs/tags/v1.0.0", "acme/widget", true⟩ ∧
      deletedRelease.lifecycle = some "deleted" ∧ "deleted" ≠ publishedAction := by
  have name : Text.trimmed deletedRelease.eventName = EventKind.releasePublished.name := by decide +kernel
  have ref : Text.trimmed deletedRelease.gitRef = "refs/tags/v1.0.0" := by decide +kernel
  have home : Text.trimmed deletedRelease.repository = "acme/widget" := by decide +kernel
  have tag : isQualifiedTagRef (Text.trimmed deletedRelease.gitRef) = true := by decide +kernel
  have classified := (classify_release_iff deletedRelease _).mpr
    ⟨.inr name, rfl, congrArg Except.ok tag, by rw [ref]; decide, by rw [home]; decide, rfl⟩
  rw [ref, home] at classified
  exact ⟨classified.1, by decide +kernel, by decide⟩

end Trigger

end ReleaseGate
