import ReleaseGate.Proofs.Version.Canonical

/-!
# One language of versions

Versions are accepted by one description of the grammar, `publicVersion`, and taken apart by another, `versionParts`, which lists the
labels in another order and groups the numbers. `Parts.read?` is what runs for the latter. All three take the same texts, those that
`IsSpelling` describes (`one_language`): the reader takes every spelling, and what it takes from a text, piece by piece, makes the
text a spelling. So the canonical form of a version never has to do without its parts.
-/

namespace ReleaseGate

open Text

namespace Version

open Pattern

/-! ## The grammar by which versions are taken apart -/

/-- A segment whose number, if it is written, is a group of its own. -/
def labelledPart (labels : List String) : Pattern := sequence [separator, oneOfWords labels, separator, optional digits]

/-- The grammar by which versions are taken apart. The release is a group, and an empty group follows the label of a post-release and
tells it from a number after a hyphen. -/
def versionParts : Pattern :=
  sequence
    [optional (word "v"),
     optional (seq digits (char '!')),
     seq digits (many (seq (char '.') digits)),
     optional (labelledPart ["alpha", "beta", "preview", "pre", "rc", "a", "b", "c"]),
     optional (alt (seq (char '-') digits) (seq (labelledPart ["post", "rev", "r"]) nothing)),
     optional (labelledPart ["dev"])]

theorem matches_optional_digits_iff (s : List Char) : (optional digits).Matches s ↔ IsDigits s := by
  rw [matches_optional_iff, matches_digits_iff]
  constructor
  · rintro (rfl | number)
    · exact nofun
    · exact number.2
  · intro each
    by_cases empty : s = []
    · exact .inl empty
    · exact .inr ⟨empty, each⟩

theorem matches_labelledPart_iff {labels : List String} (lower : ∀ w ∈ labels, IsLowerCase w.toList) (s : List Char) :
    (labelledPart labels).Matches s ↔ Segment labels s :=
  matches_segment_iff lower matches_optional_digits_iff s

/-- A group of two patterns describes what they describe without it. -/
theorem matches_group_iff {a b p : Pattern} {ps : List Pattern} (s : List Char) :
    (sequence (seq a b :: p :: ps)).Matches s ↔ (sequence (a :: b :: p :: ps)).Matches s := by
  simp only [matches_sequence_cons_iff, matches_seq_iff]
  constructor
  · rintro ⟨_, u, ⟨t, t', ht, ht', rfl⟩, hu, rfl⟩
    exact ⟨t, t' ++ u, ht, ⟨t', u, ht', hu, rfl⟩, List.append_assoc ..⟩
  · rintro ⟨t, _, ht, ⟨t', u, ht', hu, rfl⟩, rfl⟩
    exact ⟨t ++ t', u, ⟨t, t', ht, ht', rfl⟩, hu, (List.append_assoc ..).symm⟩

/-- The empty group describes nothing more. -/
theorem matches_seq_nothing_iff {p : Pattern} (s : List Char) : (seq p nothing).Matches s ↔ p.Matches s := by
  simp [matches_seq_iff, matches_nothing_iff]

theorem matches_versionParts_iff (s : List Char) : versionParts.Matches s ↔ IsSpelling s := by
  have post : ∀ t, (seq (labelledPart ["post", "rev", "r"]) nothing).Matches t ↔ Segment (labelsOf Parts.postLabels) t := by
    intro t
    rw [matches_seq_nothing_iff, matches_labelledPart_iff (by decide)]
    rfl
  have pre : ∀ t, (labelledPart ["alpha", "beta", "preview", "pre", "rc", "a", "b", "c"]).Matches t ↔
      Segment (labelsOf Parts.preLabels) t := matches_labelledPart_iff (by decide)
  have dev : ∀ t, (labelledPart ["dev"]).Matches t ↔ Segment (labelsOf Parts.devLabels) t := matches_labelledPart_iff (by decide)
  rw [← matches_pieces_iff pre (matches_post_iff post) dev s]
  -- the pieces before the release are set apart, so that its group stands first
  simp only [versionParts, matches_sequence_cons_iff (p := optional (word "v")),
    matches_sequence_cons_iff (p := optional (seq digits (char '!'))), matches_group_iff]

end Version

namespace Parts

open Version

/-! ## What the reader takes -/

theorem exists_gap (s : List Char) : ∃ gap, IsGap gap ∧ s = gap ++ dropSeparator s := by
  cases s with
  | nil => exact ⟨[], .inl rfl, rfl⟩
  | cons c rest =>
    rw [dropSeparator]
    split
    next separator => exact ⟨[c], .inr ⟨c, separator, rfl⟩, rfl⟩
    next => exact ⟨[], .inl rfl, rfl⟩

theorem exists_digits (n : Nat) (s : List Char) : ∃ digits, IsDigits digits ∧ s = digits ++ (numberFrom n s).2 := by
  induction s generalizing n with
  | nil => exact ⟨[], nofun, rfl⟩
  | cons c rest ih =>
    rw [numberFrom]
    split
    next digit =>
      obtain ⟨digits, all, split⟩ := ih (n * 10 + digitValue c)
      exact ⟨c :: digits, List.forall_mem_cons.mpr ⟨digit, all⟩, congrArg (c :: ·) split⟩
    next => exact ⟨[], nofun, rfl⟩

/-- What is read as a number is one. -/
theorem exists_number {s rest : List Char} {n : Nat} (h : readNumber? s = some (n, rest)) :
    ∃ digits, IsNumber digits ∧ s = digits ++ rest := by
  cases s with
  | nil => cases h
  | cons c s =>
    rw [readNumber?] at h
    split at h
    next digit =>
      obtain ⟨digits, all, split⟩ := exists_digits (digitValue c) s
      rw [Option.some.inj h] at split
      exact ⟨c :: digits, ⟨List.cons_ne_nil _ _, List.forall_mem_cons.mpr ⟨digit, all⟩⟩, congrArg (c :: ·) split⟩
    next => cases h

theorem exists_labelNumber (s : List Char) :
    ∃ gap digits, IsGap gap ∧ IsDigits digits ∧ s = gap ++ (digits ++ (readLabelNumber s).2) := by
  obtain ⟨gap, isGap, split⟩ := exists_gap s
  rw [readLabelNumber]
  cases read : readNumber? (dropSeparator s) with
  | none => exact ⟨gap, [], isGap, List.forall_mem_nil _, split⟩
  | some r =>
    obtain ⟨digits, number, rest⟩ := exists_number read
    exact ⟨gap, digits, isGap, number.2, by rw [← rest, ← split]⟩

/-- What is read as a label is a spelling of it. -/
theorem exists_name {label s rest : List Char} (lower : IsLowerCase label) (h : afterLabel? label s = some rest) :
    ∃ name, Spells label name ∧ s = name ++ rest := by
  induction label generalizing s with
  | nil => exact ⟨[], rfl, Option.some.inj h⟩
  | cons l label ih =>
    obtain ⟨first, others⟩ := List.forall_mem_cons.mp lower
    cases s with
    | nil => cases h
    | cons c s =>
      rw [afterLabel?] at h
      split at h
      next folds =>
        obtain ⟨name, spelled, split⟩ := ih others h
        have letter := (foldsTo_iff first c).mp folds
        exact ⟨c :: name, List.map_eq_cons_iff.mpr ⟨c, name, rfl, letter, spelled⟩, congrArg (c :: ·) split⟩
      next => cases h

/-- What is read as a segment is one, with one of the labels of the table. -/
theorem exists_segment {α : Type} {table : List (String × α)} {first s rest : List Char} {r : α × Nat}
    (words : AreLabels first (labelsOf table)) (h : readSegment? table s = some (r, rest)) :
    ∃ t, Segment (labelsOf table) t ∧ s = t ++ rest := by
  obtain ⟨before, gap, split⟩ := exists_gap s
  obtain ⟨⟨label, meaning⟩, known, read⟩ := List.exists_of_findSome?_eq_some h
  obtain ⟨after, spelled, number⟩ := Option.map_eq_some_iff.mp read
  have listed : label ∈ labelsOf table := List.mem_map_of_mem known
  obtain ⟨name, spelled, named⟩ := exists_name (words label listed).1 spelled
  obtain ⟨gap', digits, isGap, isDigits, numbered⟩ := exists_labelNumber after
  have left : (readLabelNumber after).2 = rest := congrArg Prod.snd number
  rw [left] at numbered
  refine ⟨_, .intro listed gap spelled isGap isDigits, ?_⟩
  rw [split, named, numbered]
  simp only [List.append_assoc]

theorem exists_pre (s : List Char) :
    ∃ t, (t = [] ∨ Segment (labelsOf preLabels) t) ∧ s = t ++ (readPre s).2 := by
  unfold readPre
  cases read : readSegment? preLabels s with
  | none => exact ⟨[], .inl rfl, rfl⟩
  | some r =>
    obtain ⟨t, segment, split⟩ := exists_segment areLabels_pre read
    exact ⟨t, .inr segment, split⟩

theorem exists_post (s : List Char) : ∃ t, (t = [] ∨ IsPost t) ∧ s = t ++ (readPost s).2 := by
  have numbered : ∀ {rest after : List Char} {n : Nat}, readNumber? rest = some (n, after) →
      ∃ t, (t = [] ∨ IsPost t) ∧ '-' :: rest = t ++ after := by
    intro rest after n read
    obtain ⟨digits, number, split⟩ := exists_number read
    exact ⟨'-' :: digits, .inr (.inl ⟨digits, number, rfl⟩), congrArg ('-' :: ·) split⟩
  unfold readPost
  cases labelled : readSegment? postLabels s with
  | none =>
    dsimp only
    split
    next rest =>
      split
      next read => exact numbered read
      next => exact ⟨[], .inl rfl, rfl⟩
    next => exact ⟨[], .inl rfl, rfl⟩
  | some r =>
    obtain ⟨t, segment, whole⟩ := exists_segment areLabels_post labelled
    dsimp only
    split
    next rest =>
      split
      next read => exact numbered read
      next => exact ⟨t, .inr (.inr segment), whole⟩
    next => exact ⟨t, .inr (.inr segment), whole⟩

theorem exists_dev (s : List Char) : ∃ t, IsDevTail t ∧ s = t ++ (readDev s).2 := by
  unfold readDev
  cases read : readSegment? devLabels s with
  | none => exact ⟨[], .inl rfl, rfl⟩
  | some r =>
    obtain ⟨t, segment, split⟩ := exists_segment areLabels_dev read
    exact ⟨t, .inr segment, split⟩

theorem exists_mark (s : List Char) : ∃ mark, (mark = [] ∨ Spells ['v'] mark) ∧ s = mark ++ dropV s := by
  cases s with
  | nil => exact ⟨[], .inl rfl, rfl⟩
  | cons c rest =>
    rw [dropV]
    split
    next folds => exact ⟨[c], .inr (congrArg (fun l => [l]) ((foldsTo_iff rfl c).mp folds)), rfl⟩
    next => exact ⟨[], .inl rfl, rfl⟩

theorem exists_epoch (s : List Char) :
    ∃ epoch, (epoch = [] ∨ ∃ n, IsNumber n ∧ epoch = n ++ ['!']) ∧ s = epoch ++ (readEpoch s).2 := by
  unfold readEpoch
  split
  next n rest read =>
    obtain ⟨digits, number, split⟩ := exists_number read
    refine ⟨digits ++ ['!'], .inr ⟨digits, number, rfl⟩, ?_⟩
    rw [split, List.append_assoc, List.singleton_append]
  next => exact ⟨[], .inl rfl, rfl⟩

/-- What is read on in a release: the rest of a number, and numbers each after a dot. -/
theorem exists_minors (n : Nat) (s : List Char) :
    ∃ (digits : List Char) (minors : List (List Char)), IsDigits digits ∧ (∀ m ∈ minors, IsNumber m) ∧
      s = digits ++ (minors.flatMap ('.' :: ·) ++ (releaseFrom n s).2) := by
  have nothing : ∀ s : List Char, ∃ (digits : List Char) (minors : List (List Char)), IsDigits digits ∧ (∀ m ∈ minors, IsNumber m) ∧
      s = digits ++ (minors.flatMap ('.' :: ·) ++ s) := fun s => ⟨[], [], nofun, nofun, rfl⟩
  fun_induction releaseFrom n s with
  | case1 n => exact nothing []
  | case2 n c rest digit ih =>
    obtain ⟨digits, minors, all, numbers, split⟩ := ih
    exact ⟨c :: digits, minors, List.forall_mem_cons.mpr ⟨digit, all⟩, numbers, congrArg (c :: ·) split⟩
  | case3 n c other dot d more digit m ms after read ih =>
    obtain ⟨digits, minors, all, numbers, split⟩ := ih
    have number : IsNumber (d :: digits) := ⟨List.cons_ne_nil _ _, List.forall_mem_cons.mpr ⟨digit, all⟩⟩
    refine ⟨[], (d :: digits) :: minors, nofun, List.forall_mem_cons.mpr ⟨number, numbers⟩, ?_⟩
    rw [split, read, beq_iff_eq.mp dot]
    simp
  | case4 n c other dot d more stop => exact nothing _
  | case5 n c other dot => exact nothing _
  | case6 n c rest other stop => exact nothing _

theorem exists_release {s rest : List Char} {r : Nat × List Nat} (h : readRelease? s = some (r, rest)) :
    ∃ t, IsRelease t ∧ s = t ++ rest := by
  cases s with
  | nil => cases h
  | cons c s =>
    rw [readRelease?] at h
    split at h
    next digit =>
      obtain ⟨digits, minors, all, numbers, split⟩ := exists_minors (digitValue c) s
      rw [Option.some.inj h] at split
      have major : IsNumber (c :: digits) := ⟨List.cons_ne_nil _ _, List.forall_mem_cons.mpr ⟨digit, all⟩⟩
      exact ⟨_, ⟨c :: digits, minors, major, numbers, rfl⟩, by rw [split, List.cons_append, List.cons_append, List.append_assoc]⟩
    next => cases h

/-- A text that has parts is a spelling: what its readers take, one after the other, are the pieces of one. -/
theorem isSpelling_of_read? {s : List Char} {p : Parts} (h : read? s = some p) : IsSpelling s := by
  obtain ⟨mark, isMark, marked⟩ := exists_mark s
  obtain ⟨epoch, isEpoch, dated⟩ := exists_epoch (dropV s)
  obtain ⟨⟨r, afterRelease⟩, release, tail⟩ := Option.bind_eq_some_iff.mp h
  have release : readRelease? (readEpoch (dropV s)).2 = some (r, afterRelease) := release
  obtain ⟨t, isRelease, released⟩ := exists_release release
  obtain ⟨pre, isPre, afterPre⟩ := exists_pre afterRelease
  obtain ⟨post, isPost, afterPost⟩ := exists_post (readPre afterRelease).2
  obtain ⟨dev, isDev, afterDev⟩ := exists_dev (readPost (readPre afterRelease).2).2
  have ends : (readDev (readPost (readPre afterRelease).2).2).2 = [] := by
    by_cases empty : (readDev (readPost (readPre afterRelease).2).2).2.isEmpty = true
    · exact List.isEmpty_iff.mp empty
    · simp [empty] at tail
  rw [ends, List.append_nil] at afterDev
  refine ⟨mark, epoch, t, pre ++ (post ++ dev), isMark, isEpoch, isRelease, ⟨pre, _, isPre, ⟨post, dev, isPost, isDev, rfl⟩, rfl⟩, ?_⟩
  rw [← afterDev, ← afterPost, ← afterPre, ← released, ← dated, ← marked]

theorem isSome_read?_iff (s : List Char) : (read? s).isSome = true ↔ IsSpelling s := by
  constructor
  · intro some
    obtain ⟨p, read⟩ := Option.isSome_iff_exists.mp some
    exact isSpelling_of_read? read
  · intro spelling
    obtain ⟨p, read⟩ := exists_read?_of_matches ((matches_publicVersion_iff s).mpr spelling)
    exact Option.isSome_iff_exists.mpr ⟨p, read⟩

end Parts

namespace Version

/-! ## What is accepted -/

/-- A text is accepted as a version just when it is a spelling of one, white space around it aside. -/
theorem exists_parse_iff (raw : String) : (∃ v, parse raw = .ok v) ↔ IsSpelling (trim raw.toList) := by
  rw [← matches_publicVersion_iff, ← toList_trimmed]
  constructor
  · rintro ⟨v, parsed⟩
    rw [(parse_eq_ok_iff raw v).mp parsed]
    exact Pattern.accepts_iff.mp v.accepted
  · intro spelled
    exact ⟨⟨trimmed raw, Pattern.accepts_iff.mpr spelled⟩, (parse_eq_ok_iff raw _).mpr rfl⟩

/-- No version holds the mark of a local segment, white space, or a slash. -/
theorem plain_of_mem_text {v : Version} {c : Char} (h : c ∈ v.text.toList) : c ≠ '+' ∧ isBlank c = false ∧ c ≠ '/' := by
  have known := isVersionCharacter_of_mem h
  refine ⟨?_, isBlank_of_isVersionCharacter known, ?_⟩
  · rintro rfl
    exact absurd known (by decide)
  · rintro rfl
    exact absurd known (by decide)

/-- The two descriptions of the grammar and the reader take one language, that of the spellings. A text is accepted as a version just
when it is one of these, white space around it aside, and it is kept as it was spelled; no version holds a plus sign, white space or
a slash; and every version has parts, which its canonical form spells. -/
theorem one_language (s : List Char) (raw : String) (v : Version) :
    (publicVersion.accepts s = true ↔ versionParts.accepts s = true) ∧
      (publicVersion.accepts s = true ↔ IsSpelling s) ∧
      ((Parts.read? s).isSome = true ↔ IsSpelling s) ∧
      ((∃ u, parse raw = .ok u) ↔ IsSpelling (trim raw.toList)) ∧
      (parse raw = .ok v ↔ v.text = trimmed raw) ∧
      (∀ c ∈ v.text.toList, c ≠ '+' ∧ isBlank c = false ∧ c ≠ '/') ∧
      ∃ parts, Parts.read? v.text.toList = some parts ∧ v.canonical.toList = parts.print := by
  have accepted : ∀ p : Pattern, (∀ s, p.Matches s ↔ IsSpelling s) → (p.accepts s = true ↔ IsSpelling s) :=
    fun p grammar => Pattern.accepts_iff.trans (grammar s)
  have isPublic := accepted publicVersion matches_publicVersion_iff
  have hasParts := accepted versionParts matches_versionParts_iff
  exact ⟨isPublic.trans hasParts.symm, isPublic, Parts.isSome_read?_iff s, exists_parse_iff raw,
    (parse_eq_ok_iff raw v).trans eq_comm, fun c => plain_of_mem_text, v.exists_parts⟩

end Version

end ReleaseGate
