import ReleaseGate.Verifier

/-!
# What each family of checks finds

A family of checks is described here by what it demands of a set, without the checks: `Sound` says, for each family, what has to
be so. `family_reports_iff` is the agreement of the two: a family has a finding exactly when its demand is not met, whatever the
other families find, and verification passes exactly when all five demands are met.
-/

namespace ReleaseGate.Verifier

open Text

/-! ## The demands -/

/-- What the contents of a set must be: there is a file, no file is empty, and each can be read and has the digest that was taken
when the set was made. -/
structure ContentsSound (fs : FileSystem) (cwd : Place) (s : ArtifactSet) : Prop where
  inhabited : s.artifacts ≠ []
  sized : ∀ a ∈ s.artifacts, 0 < a.size
  unchanged : ∀ a ∈ s.artifacts, ∃ bytes, fs.readBytes cwd a.path = .ok bytes ∧ Sha256.hexDigest bytes = a.sha256

/-- What a record of checksums must be for a set: every line recorded something, every file has its digest there, and no other
name is there. -/
structure Agrees (recorded : Checksums) (s : ArtifactSet) : Prop where
  wellFormed : recorded.malformed = []
  complete : ∀ a ∈ s.artifacts, recorded.entries.lookup a.fileName = some a.sha256
  exact : ∀ entry ∈ recorded.entries, ∃ a ∈ s.artifacts, a.fileName = entry.1

/-- What the names of a set must be for its descriptor: every file name begins with the name of the package, both normalized, and
the descriptor spells the version of the set. -/
structure Attributed (d : Descriptor) (s : ArtifactSet) : Prop where
  package : ∀ a ∈ s.artifacts, Naming.normalizeName d.name.toList <+: Naming.normalizeName a.fileName.toList
  version : ∃ v, Version.parse d.version = .ok v ∧ v.canonical = s.version.canonical

/-- What a descriptor has for a media type: what its content type says before the first semicolon, or as a whole if there is none,
without the white space around it. -/
structure HasMediaType (d : Descriptor) (type : String) : Prop where
  stands : ∃ front parameters, d.contentType.toList = front ++ parameters ∧ ';' ∉ front ∧ (∀ c ∈ parameters.head?, c = ';') ∧
    IsPadded type (String.ofList front)
  starts : ∀ c ∈ type.toList.head?, isBlank c = false
  ends : ∀ c ∈ type.toList.getLast?, isBlank c = false

/-- What a descriptor must be. -/
structure FilledIn (d : Descriptor) : Prop where
  name : Naming.projectName.Matches d.name.toList
  summary : ∃ c ∈ d.summary.toList, isBlank c = false
  oneLine : '\n' ∉ d.summary.toList
  longDescription : ∃ c ∈ d.longDescription.toList, isBlank c = false
  contentType : ∃ type ∈ ["text/plain", "text/markdown", "text/x-rst"], HasMediaType d type

/-- What the long description of a descriptor must be. -/
structure WellMarked (d : Descriptor) : Prop where
  markdown : HasMediaType d "text/markdown" → Markdown.problems d.longDescription.toList = []
  restructured : HasMediaType d "text/x-rst" → Restructured.problems d.longDescription.toList = []

/-- What a family of checks demands of a set. -/
def Sound (fs : FileSystem) (cwd : Place) (s : ArtifactSet) : CheckFamily → Prop
  | .contents => ContentsSound fs cwd s
  | .checksums => ∃ recorded, s.checksums = some recorded ∧ Agrees recorded s
  | .attribution =>
    (∀ a ∈ s.artifacts, Naming.carriesVersion a.fileName.toList s.version.canonical.toList = true) ∧
      ∀ d ∈ s.descriptor, Attributed d s
  | .descriptor => ∃ d, s.descriptor = some d ∧ FilledIn d
  | .markup => ∀ d ∈ s.descriptor, WellMarked d

/-- The findings of a family of checks. -/
def issuesOf (fs : FileSystem) (cwd : Place) (s : ArtifactSet) : CheckFamily → List Issue
  | .contents => contentsIssues fs cwd s
  | .checksums => checksumIssues s
  | .attribution => attributionIssues s
  | .descriptor => descriptorIssues s
  | .markup => markupIssues s

/-! ## Media types -/

/-- What stands before the first semicolon of a content type is the first of its fields. -/
theorem mediaType_eq {d : Descriptor} {front parameters : List Char} (whole : d.contentType.toList = front ++ parameters)
    (plain : ';' ∉ front) (follows : ∀ c ∈ parameters.head?, c = ';') : mediaType d = String.ofList (trim front) := by
  have first : ∃ later, fields ';' d.contentType.toList = front :: later := by
    rw [whole]
    cases parameters with
    | nil => exact ⟨[], by rw [List.append_nil, fields_eq_singleton plain]⟩
    | cons c rest =>
      obtain rfl : c = ';' := follows c rfl
      exact ⟨fields ';' rest, by rw [fields_append, fields_eq_singleton plain, List.singleton_append]⟩
  obtain ⟨later, cut⟩ := first
  unfold mediaType
  rw [cut]

theorem HasMediaType.eq {d : Descriptor} {type : String} (h : HasMediaType d type) : mediaType d = type := by
  obtain ⟨⟨front, parameters, whole, plain, follows, padded⟩, starts, ends⟩ := h
  have bare : trimmed type = type := by rw [trimmed, (trim_eq_self_iff _).mpr ⟨starts, ends⟩, String.ofList_toList]
  have trimmedFront := padded.trimmed_eq
  rw [bare, trimmed, String.toList_ofList] at trimmedFront
  rw [mediaType_eq whole plain follows, trimmedFront]

theorem hasMediaType_mediaType (d : Descriptor) : HasMediaType d (mediaType d) := by
  let front := d.contentType.toList.takeWhile (· != ';')
  let parameters := d.contentType.toList.dropWhile (· != ';')
  have whole : d.contentType.toList = front ++ parameters := List.takeWhile_append_dropWhile.symm
  have plain : ';' ∉ front := fun inside => by simpa using List.all_eq_true.mp List.all_takeWhile _ inside
  have follows : ∀ c ∈ parameters.head?, c = ';' := by
    intro c first
    have stops := List.head?_dropWhile_not (· != ';') d.contentType.toList
    rw [show (d.contentType.toList.dropWhile (· != ';')).head? = some c from first] at stops
    simpa using stops
  rw [mediaType_eq whole plain follows]
  refine ⟨⟨front, parameters, whole, plain, follows, ?_⟩, ?_, ?_⟩
  · have bare := isPadded_trimmed (String.ofList front)
    rwa [trimmed, String.toList_ofList] at bare
  · rw [String.toList_ofList]
    exact isBlank_head?_trim front
  · rw [String.toList_ofList]
    exact isBlank_getLast?_trimEnd _

theorem hasMediaType_iff {d : Descriptor} {type : String} : HasMediaType d type ↔ mediaType d = type := by
  refine ⟨HasMediaType.eq, ?_⟩
  rintro rfl
  exact hasMediaType_mediaType d

/-- A descriptor has one media type. -/
theorem HasMediaType.unique {d : Descriptor} {type other : String} (h : HasMediaType d type) (h' : HasMediaType d other) :
    type = other := h.eq.symm.trans h'.eq

/-- Plain text has no markup that could be wrong. -/
theorem wellMarked_of_plain {d : Descriptor} (plain : HasMediaType d "text/plain") : WellMarked d where
  markdown type := absurd (plain.unique type) (by decide)
  restructured type := absurd (plain.unique type) (by decide)

/-! ## No finding where the demand is met, and only there -/

theorem fileIssues_eq_nil_iff (fs : FileSystem) (cwd : Place) (a : Artifact) :
    fileIssues fs cwd a = [] ↔
      0 < a.size ∧ ∃ bytes, fs.readBytes cwd a.path = .ok bytes ∧ Sha256.hexDigest bytes = a.sha256 := by
  have sized : a.size ≠ 0 ↔ 0 < a.size := UInt64.pos_iff_ne_zero.symm
  unfold fileIssues digestOf
  rw [List.append_eq_nil_iff, ← sized]
  cases fs.readBytes cwd a.path with
  | error e => simp
  | ok bytes => simp

theorem contentsIssues_eq_nil_iff (fs : FileSystem) (cwd : Place) (s : ArtifactSet) :
    contentsIssues fs cwd s = [] ↔ ContentsSound fs cwd s := by
  unfold contentsIssues
  split
  next empty =>
    have none_there : s.artifacts = [] := List.isEmpty_iff.mp empty
    exact ⟨fun h => by simp at h, fun h => absurd none_there h.inhabited⟩
  next inhabited =>
    rw [List.flatMap_eq_nil_iff]
    constructor
    · intro h
      have each := fun a ha => (fileIssues_eq_nil_iff fs cwd a).mp (h a ha)
      refine ⟨fun e => inhabited (List.isEmpty_iff.mpr e), fun a ha => (each a ha).1, fun a ha => (each a ha).2⟩
    · intro h a ha
      exact (fileIssues_eq_nil_iff fs cwd a).mpr ⟨h.sized a ha, h.unchanged a ha⟩

theorem recordIssues_eq_nil_iff (recorded : Checksums) (a : Artifact) :
    recordIssues recorded a = [] ↔ recorded.digest? a.fileName = some a.sha256 := by
  unfold recordIssues
  cases recorded.digest? a.fileName with
  | none => simp
  | some digest => simp

theorem checksumIssues_eq_nil_iff (s : ArtifactSet) :
    checksumIssues s = [] ↔ ∃ recorded, s.checksums = some recorded ∧ Agrees recorded s := by
  unfold checksumIssues
  cases s.checksums with
  | none => simp
  | some recorded =>
    rw [List.append_eq_nil_iff, List.append_eq_nil_iff, List.map_eq_nil_iff, List.flatMap_eq_nil_iff, List.map_eq_nil_iff,
      List.filter_eq_nil_iff]
    constructor
    · rintro ⟨⟨wellFormed, complete⟩, exact_⟩
      refine ⟨recorded, rfl, wellFormed, fun a ha => (recordIssues_eq_nil_iff recorded a).mp (complete a ha), fun entry he => ?_⟩
      have found := exact_ entry.1 (List.mem_map_of_mem he)
      simpa using found
    · rintro ⟨_, same, h⟩
      obtain rfl := Option.some.inj same
      refine ⟨⟨h.wellFormed, fun a ha => (recordIssues_eq_nil_iff recorded a).mpr (h.complete a ha)⟩, fun name hn => ?_⟩
      obtain ⟨entry, he, rfl⟩ := List.mem_map.mp hn
      have found := h.exact entry he
      simpa using found

theorem nameIssues_eq_nil_iff (canonical : String) (package : Option (List Char)) (a : Artifact) :
    nameIssues canonical package a = [] ↔
      Naming.carriesVersion a.fileName.toList canonical.toList = true ∧
        ∀ p ∈ package, p <+: Naming.normalizeName a.fileName.toList := by
  unfold nameIssues
  rw [List.append_eq_nil_iff]
  cases package with
  | none => simp
  | some p => simp

theorem spellsVersion_iff (text canonical : String) :
    spellsVersion text canonical = true ↔ ∃ v, Version.parse text = .ok v ∧ v.canonical = canonical := by
  unfold spellsVersion
  cases Version.parse text with
  | error e => simp
  | ok v => simp

theorem attributionIssues_eq_nil_iff (s : ArtifactSet) :
    attributionIssues s = [] ↔
      (∀ a ∈ s.artifacts, Naming.carriesVersion a.fileName.toList s.version.canonical.toList = true) ∧
        ∀ d ∈ s.descriptor, Attributed d s := by
  unfold attributionIssues
  simp only [List.append_eq_nil_iff, List.flatMap_eq_nil_iff, nameIssues_eq_nil_iff]
  cases s.descriptor with
  | none => simp
  | some d =>
    have version : (if spellsVersion d.version s.version.canonical = true then ([] : List Issue)
        else [⟨.attribution, "version", s!"descriptor version {quoted d.version} does not match set version {s.version}"⟩]) = []
        ↔ ∃ v, Version.parse d.version = .ok v ∧ v.canonical = s.version.canonical := by
      rw [← spellsVersion_iff]
      simp
    constructor
    · rintro ⟨names, spelled⟩
      refine ⟨fun a ha => (names a ha).1, fun e he => ?_⟩
      obtain rfl : d = e := by simpa using he
      exact ⟨fun a ha => (names a ha).2 _ (by simp), version.mp spelled⟩
    · rintro ⟨carried, attributed⟩
      have h := attributed d rfl
      refine ⟨fun a ha => ⟨carried a ha, fun p hp => ?_⟩, version.mpr h.version⟩
      obtain rfl : Naming.normalizeName d.name.toList = p := by simpa using hp
      exact h.package a ha

/-- No character that may begin or end the name of a project is blank. -/
theorem isBlank_of_isNameEnd {c : Char} (h : Naming.isNameEnd c = true) : isBlank c = false := by
  rcases Bool.or_eq_true_iff.mp h with letter | digit
  · exact isBlank_of_foldsToLetter letter
  · exact isBlank_of_isDigit digit

/-- The name of a project begins with a character that is not blank, so a blank name is none. -/
theorem isBlankText_of_matches_projectName {name : String} (h : Naming.projectName.Matches name.toList) :
    isBlankText name = false := by
  have begins : ∃ c rest, name.toList = c :: rest ∧ Naming.isNameEnd c = true := by
    rcases Pattern.matches_alt_iff.mp h with single | several
    · obtain ⟨c, hc, e⟩ := Pattern.matches_one_iff.mp single
      exact ⟨c, [], e, hc⟩
    · obtain ⟨first, rest, hfirst, -, e⟩ := Pattern.matches_seq_iff.mp several
      obtain ⟨c, hc, rfl⟩ := Pattern.matches_one_iff.mp hfirst
      exact ⟨c, rest, e, hc⟩
  obtain ⟨c, rest, e, hc⟩ := begins
  rw [isBlankText, e, List.all_cons, isBlank_of_isNameEnd hc, Bool.false_and]

theorem packageNameIssues_eq_nil_iff (d : Descriptor) :
    packageNameIssues d = [] ↔ Naming.projectName.Matches d.name.toList := by
  rw [← Pattern.accepts_iff]
  unfold packageNameIssues
  split
  next blank =>
    refine ⟨fun h => by simp at h, fun accepted => ?_⟩
    have filled := isBlankText_of_matches_projectName (Pattern.accepts_iff.mp accepted)
    rw [blank] at filled
    cases filled
  next => simp

theorem summaryIssues_eq_nil_iff (d : Descriptor) :
    summaryIssues d = [] ↔ (∃ c ∈ d.summary.toList, isBlank c = false) ∧ '\n' ∉ d.summary.toList := by
  rw [← isBlankText_eq_false_iff]
  unfold summaryIssues
  cases isBlankText d.summary <;> simp

theorem descriptorIssues_eq_nil_iff (s : ArtifactSet) :
    descriptorIssues s = [] ↔ ∃ d, s.descriptor = some d ∧ FilledIn d := by
  unfold descriptorIssues
  cases s.descriptor with
  | none => simp
  | some d =>
    have longDescription : longDescriptionIssues d = [] ↔ ∃ c ∈ d.longDescription.toList, isBlank c = false := by
      rw [← isBlankText_eq_false_iff]
      simp [longDescriptionIssues]
    have contentType : contentTypeIssues d = [] ↔
        ∃ type ∈ ["text/plain", "text/markdown", "text/x-rst"], HasMediaType d type := by
      have known : contentTypeIssues d = [] ↔ mediaType d ∈ knownContentTypes := by simp [contentTypeIssues]
      simp only [hasMediaType_iff, exists_eq_right']
      exact known
    rw [List.append_eq_nil_iff, List.append_eq_nil_iff, List.append_eq_nil_iff, packageNameIssues_eq_nil_iff,
      summaryIssues_eq_nil_iff, longDescription, contentType]
    constructor
    · rintro ⟨⟨⟨name, summary, oneLine⟩, long⟩, known⟩
      exact ⟨d, rfl, name, summary, oneLine, long, known⟩
    · rintro ⟨_, same, h⟩
      obtain rfl := Option.some.inj same
      exact ⟨⟨⟨h.name, h.summary, h.oneLine⟩, h.longDescription⟩, h.contentType⟩

theorem markupProblems_eq_nil_iff (mediaType : String) (text : List Char) :
    markupProblems mediaType text = [] ↔
      (mediaType = "text/markdown" → Markdown.problems text = []) ∧
        (mediaType = "text/x-rst" → Restructured.problems text = []) := by
  unfold markupProblems
  split
  next => simp
  next => simp
  next markdown restructured => exact iff_of_true rfl ⟨fun e => absurd e markdown, fun e => absurd e restructured⟩

theorem markupIssues_eq_nil_iff (s : ArtifactSet) : markupIssues s = [] ↔ ∀ d ∈ s.descriptor, WellMarked d := by
  unfold markupIssues
  cases s.descriptor with
  | none => simp
  | some d =>
    rw [List.map_eq_nil_iff, markupProblems_eq_nil_iff, ← hasMediaType_iff, ← hasMediaType_iff]
    constructor
    · intro h e he
      obtain rfl : d = e := by simpa using he
      exact ⟨h.1, h.2⟩
    · intro h
      exact ⟨(h d rfl).markdown, (h d rfl).restructured⟩

/-- A family of checks finds nothing exactly where its demand is met. -/
theorem issuesOf_eq_nil_iff (fs : FileSystem) (cwd : Place) (s : ArtifactSet) (family : CheckFamily) :
    issuesOf fs cwd s family = [] ↔ Sound fs cwd s family := by
  cases family with
  | contents => exact contentsIssues_eq_nil_iff fs cwd s
  | checksums => exact checksumIssues_eq_nil_iff s
  | attribution => exact attributionIssues_eq_nil_iff s
  | descriptor => exact descriptorIssues_eq_nil_iff s
  | markup => exact markupIssues_eq_nil_iff s

/-! ## Findings carry the name of their family -/

/-- All findings of a list are of one family. -/
def OnlyOf (family : CheckFamily) (found : List Issue) : Prop := ∀ i ∈ found, i.family = family

theorem onlyOf_nil (family : CheckFamily) : OnlyOf family [] := by
  intro i hi
  cases hi

theorem onlyOf_singleton (i : Issue) : OnlyOf i.family [i] := by
  intro j hj
  rw [List.mem_singleton.mp hj]

theorem OnlyOf.append {family : CheckFamily} {a b : List Issue} (ha : OnlyOf family a) (hb : OnlyOf family b) :
    OnlyOf family (a ++ b) := by
  intro i hi
  rcases List.mem_append.mp hi with hi | hi
  · exact ha i hi
  · exact hb i hi

theorem OnlyOf.ite {family : CheckFamily} {a b : List Issue} {c : Prop} [Decidable c] (ha : OnlyOf family a)
    (hb : OnlyOf family b) : OnlyOf family (if c then a else b) := by
  split
  · exact ha
  · exact hb

theorem onlyOf_map {α : Type} {family : CheckFamily} {f : α → Issue} (h : ∀ x, (f x).family = family) (xs : List α) :
    OnlyOf family (xs.map f) := by
  intro i hi
  obtain ⟨x, -, rfl⟩ := List.mem_map.mp hi
  exact h x

theorem onlyOf_flatMap {α : Type} {family : CheckFamily} {f : α → List Issue} (h : ∀ x, OnlyOf family (f x)) (xs : List α) :
    OnlyOf family (xs.flatMap f) := by
  intro i hi
  obtain ⟨x, -, hx⟩ := List.mem_flatMap.mp hi
  exact h x i hx

theorem onlyOf_fileIssues (fs : FileSystem) (cwd : Place) (a : Artifact) : OnlyOf .contents (fileIssues fs cwd a) := by
  refine .append (.ite (onlyOf_singleton _) (onlyOf_nil _)) ?_
  split
  · exact .ite (onlyOf_nil _) (onlyOf_singleton _)
  · exact onlyOf_singleton _

theorem onlyOf_contentsIssues (fs : FileSystem) (cwd : Place) (s : ArtifactSet) :
    OnlyOf .contents (contentsIssues fs cwd s) :=
  .ite (onlyOf_singleton _) (onlyOf_flatMap (onlyOf_fileIssues fs cwd) s.artifacts)

theorem onlyOf_recordIssues (recorded : Checksums) (a : Artifact) : OnlyOf .checksums (recordIssues recorded a) := by
  unfold recordIssues
  split
  · exact onlyOf_singleton _
  · exact .ite (onlyOf_nil _) (onlyOf_singleton _)

theorem onlyOf_checksumIssues (s : ArtifactSet) : OnlyOf .checksums (checksumIssues s) := by
  unfold checksumIssues
  split
  · exact onlyOf_singleton _
  next recorded _ =>
    exact .append (.append (onlyOf_map (by intro; rfl) _) (onlyOf_flatMap (onlyOf_recordIssues recorded) _))
      (onlyOf_map (by intro; rfl) _)

theorem onlyOf_nameIssues (canonical : String) (package : Option (List Char)) (a : Artifact) :
    OnlyOf .attribution (nameIssues canonical package a) := by
  refine .append (.ite (onlyOf_nil _) (onlyOf_singleton _)) ?_
  split
  · exact .ite (onlyOf_nil _) (onlyOf_singleton _)
  · exact onlyOf_nil _

theorem onlyOf_attributionIssues (s : ArtifactSet) : OnlyOf .attribution (attributionIssues s) := by
  refine .append (onlyOf_flatMap (onlyOf_nameIssues _ _) _) ?_
  split
  · exact .ite (onlyOf_nil _) (onlyOf_singleton _)
  · exact onlyOf_nil _

theorem onlyOf_descriptorIssues (s : ArtifactSet) : OnlyOf .descriptor (descriptorIssues s) := by
  unfold descriptorIssues
  split
  next d _ =>
    have name : OnlyOf .descriptor (packageNameIssues d) :=
      .ite (onlyOf_singleton _) (.ite (onlyOf_singleton _) (onlyOf_nil _))
    have summary : OnlyOf .descriptor (summaryIssues d) :=
      .ite (onlyOf_singleton _) (.ite (onlyOf_singleton _) (onlyOf_nil _))
    have longDescription : OnlyOf .descriptor (longDescriptionIssues d) := .ite (onlyOf_singleton _) (onlyOf_nil _)
    have contentType : OnlyOf .descriptor (contentTypeIssues d) := .ite (onlyOf_nil _) (onlyOf_singleton _)
    exact ((name.append summary).append longDescription).append contentType
  · exact onlyOf_singleton _

theorem onlyOf_markupIssues (s : ArtifactSet) : OnlyOf .markup (markupIssues s) := by
  unfold markupIssues
  split
  · exact onlyOf_map (by intro; rfl) _
  · exact onlyOf_nil _

/-- The findings of a family of checks carry its name, and no other's. -/
theorem onlyOf_issuesOf (fs : FileSystem) (cwd : Place) (s : ArtifactSet) (family : CheckFamily) :
    OnlyOf family (issuesOf fs cwd s family) := by
  cases family with
  | contents => exact onlyOf_contentsIssues fs cwd s
  | checksums => exact onlyOf_checksumIssues s
  | attribution => exact onlyOf_attributionIssues s
  | descriptor => exact onlyOf_descriptorIssues s
  | markup => exact onlyOf_markupIssues s

/-- The findings on a set are those of the five families, one family after another. -/
theorem issues_eq_flatMap (fs : FileSystem) (cwd : Place) (s : ArtifactSet) :
    issues fs cwd s = CheckFamily.all.flatMap (issuesOf fs cwd s) := by
  simp [issues, CheckFamily.all, issuesOf]

/-- A finding on a set is one of the family that it names. -/
theorem mem_issues_iff (fs : FileSystem) (cwd : Place) (s : ArtifactSet) (i : Issue) :
    i ∈ issues fs cwd s ↔ i ∈ issuesOf fs cwd s i.family := by
  rw [issues_eq_flatMap, List.mem_flatMap]
  constructor
  · rintro ⟨family, -, h⟩
    rw [onlyOf_issuesOf fs cwd s family i h]
    exact h
  · intro h
    exact ⟨i.family, by cases i.family <;> decide, h⟩

/-- A set passes exactly when the demands of all families are met. -/
theorem verify_eq_pass_iff (fs : FileSystem) (cwd : Place) (s : ArtifactSet) :
    verify fs cwd s = .pass ↔ ∀ family, Sound fs cwd s family := by
  rw [verify, Verdict.ofIssues_eq_pass_iff, issues_eq_flatMap, List.flatMap_eq_nil_iff]
  constructor
  · intro nothing family
    exact (issuesOf_eq_nil_iff fs cwd s family).mp (nothing family (by cases family <;> decide))
  · intro sound family _
    exact (issuesOf_eq_nil_iff fs cwd s family).mpr (sound family)

/-- The verdict on a set depends on the files only by what is read at the paths of its artifacts. -/
theorem verify_congr {fs fs' : FileSystem} {cwd cwd' : Place} {s : ArtifactSet}
    (same : ∀ a ∈ s.artifacts, fs.readBytes cwd a.path = fs'.readBytes cwd' a.path) : verify fs cwd s = verify fs' cwd' s := by
  have each : ∀ a ∈ s.artifacts, fileIssues fs cwd a = fileIssues fs' cwd' a := by
    intro a ha
    unfold fileIssues digestOf
    rw [same a ha]
  unfold verify issues contentsIssues
  rw [List.flatMap_def, List.flatMap_def, List.map_congr_left each]

/-! ## The agreement -/

/-- A family of checks has a finding exactly when its own demand is not met, whatever the other families find; and a set passes
exactly when the demands of all families are met. -/
theorem family_reports_iff (fs : FileSystem) (cwd : Place) (s : ArtifactSet) :
    (∀ family, (∃ i ∈ (verify fs cwd s).issues, i.family = family) ↔ ¬Sound fs cwd s family) ∧
      (verify fs cwd s = .pass ↔ ∀ family, Sound fs cwd s family) := by
  refine ⟨fun family => ?_, verify_eq_pass_iff fs cwd s⟩
  rw [verify, Verdict.issues_ofIssues, ← issuesOf_eq_nil_iff]
  constructor
  · rintro ⟨i, hi, rfl⟩ nothing
    rw [mem_issues_iff, nothing] at hi
    cases hi
  · intro something
    obtain ⟨i, hi⟩ := List.exists_mem_of_ne_nil _ something
    have named := onlyOf_issuesOf fs cwd s family i hi
    exact ⟨i, (mem_issues_iff fs cwd s i).mpr (by rw [named]; exact hi), named⟩

end ReleaseGate.Verifier
