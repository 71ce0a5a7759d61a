import ReleaseGate.Version

/-!
# How versions are spelled

The texts in the grammar of public versions, piece by piece: an optional `v`, an optional epoch, a dotted release, and a tail of
optional segments. A segment is a label with optional separators around it and an optional number, and the label is read letter by
letter under simple case folding. `matches_publicVersion_iff` takes a text in the grammar apart. No character of one is blank.
-/

namespace ReleaseGate.Version

open Text

/-! ## Labels under case folding -/

/-- The lower-case letter that a character is under simple case folding; a character that is no letter stays as it is. -/
def folded (c : Char) : Char := if c = 'ſ' then 's' else if c.toNat = 0x212a then 'k' else c.toLower

theorem foldsTo_iff {letter : Char} (lower : letter.isLower = true) (c : Char) : foldsTo letter c = true ↔ folded c = letter := by
  have unlike : ∀ {d : Char}, d.isLower = false → letter ≠ d := by
    rintro d other rfl
    exact absurd (lower.symm.trans other) (by decide)
  simp only [foldsTo, folded, Bool.or_eq_true, Bool.and_eq_true, beq_iff_eq]
  split
  next long =>
    subst long
    have same : 'ſ'.toLower ≠ letter := fun e => unlike (by decide) e.symm
    have small : 'ſ'.toNat ≠ 0x212a := by decide
    grind
  next short =>
    split
    next kelvin =>
      obtain rfl : c = '\u212a' := Char.ext (UInt32.toNat_inj.mp kelvin)
      have same : '\u212a'.toLower ≠ letter := fun e => unlike (by decide) e.symm
      grind
    next plain => grind

/-- A word is in lower-case letters of ASCII. -/
def IsLowerCase (word : List Char) : Prop := ∀ l ∈ word, l.isLower = true

instance (word : List Char) : Decidable (IsLowerCase word) := decidable_of_iff (word.all Char.isLower = true) List.all_eq_true

/-- A spelling of a word: its letters, one by one, under simple case folding. -/
def Spells (word spelling : List Char) : Prop := spelling.map folded = word

theorem matches_word_iff {w : String} (lower : IsLowerCase w.toList) (s : List Char) :
    (word w).Matches s ↔ Spells w.toList s := by
  unfold word Spells
  generalize w.toList = letters at lower
  induction letters generalizing s with
  | nil => simp [Pattern.sequence, Pattern.matches_nothing_iff]
  | cons l rest ih =>
    have ih := fun u => ih u fun m hm => lower m (List.mem_cons_of_mem l hm)
    have letter := foldsTo_iff (lower l List.mem_cons_self)
    rw [List.map_eq_cons_iff]
    cases rest with
    | nil =>
      simp only [List.map_cons, List.map_nil, Pattern.sequence, Pattern.matches_one_iff, letter, List.map_eq_nil_iff]
      constructor
      · rintro ⟨c, hc, rfl⟩
        exact ⟨c, [], rfl, hc, rfl⟩
      · rintro ⟨c, _, rfl, hc, rfl⟩
        exact ⟨c, hc, rfl⟩
    | cons m rest =>
      simp only [List.map_cons, Pattern.matches_sequence_cons_iff] at ih ⊢
      constructor
      · rintro ⟨t, u, ht, hu, rfl⟩
        obtain ⟨c, hc, rfl⟩ := Pattern.matches_one_iff.mp ht
        exact ⟨c, u, rfl, (letter c).mp hc, (ih u).mp hu⟩
      · rintro ⟨c, u, rfl, hc, hu⟩
        exact ⟨[c], u, Pattern.matches_one_iff.mpr ⟨c, (letter c).mpr hc, rfl⟩, (ih u).mpr hu, rfl⟩

/-! ## The pieces of a spelling -/

/-- Nothing but digits. -/
def IsDigits (s : List Char) : Prop := ∀ c ∈ s, c.isDigit = true

/-- A number, with leading zeros or without. -/
def IsNumber (s : List Char) : Prop := s ≠ [] ∧ IsDigits s

/-- At most one separator. -/
def IsGap (s : List Char) : Prop := s = [] ∨ ∃ c, Parts.isSeparator c = true ∧ s = [c]

theorem isGap_nil : IsGap [] := .inl rfl

theorem isGap_singleton {c : Char} (separator : Parts.isSeparator c = true) : IsGap [c] := .inr ⟨c, separator, rfl⟩

/-- A segment whose label is one of some words. -/
inductive Segment (labels : List String) : List Char → Prop where
  | intro {label : String} {before name after number : List Char} (known : label ∈ labels) (gap : IsGap before)
      (spelled : Spells label.toList name) (gap' : IsGap after) (digits : IsDigits number) :
      Segment labels (before ++ (name ++ (after ++ number)))

/-- The labels of a table. -/
def labelsOf {α : Type} (table : List (String × α)) : List String := table.map (·.1)

/-- A release: numbers with a dot between each two. -/
def IsRelease (s : List Char) : Prop :=
  ∃ major, ∃ minors : List (List Char), IsNumber major ∧ (∀ n ∈ minors, IsNumber n) ∧ s = major ++ minors.flatMap ('.' :: ·)

/-- A post-release: a number after a hyphen, or a segment. -/
def IsPost (s : List Char) : Prop := (∃ n, IsNumber n ∧ s = '-' :: n) ∨ Segment (labelsOf Parts.postLabels) s

/-- What may follow a post-release: a development segment, or nothing. -/
def IsDevTail (s : List Char) : Prop := s = [] ∨ Segment (labelsOf Parts.devLabels) s

/-- What may follow a pre-release. -/
def IsPostTail (s : List Char) : Prop := ∃ post dev, (post = [] ∨ IsPost post) ∧ IsDevTail dev ∧ s = post ++ dev

/-- What may follow a release. -/
def IsPreTail (s : List Char) : Prop :=
  ∃ pre rest, (pre = [] ∨ Segment (labelsOf Parts.preLabels) pre) ∧ IsPostTail rest ∧ s = pre ++ rest

/-- A spelling of a version. -/
def IsSpelling (s : List Char) : Prop :=
  ∃ v epoch release tail, (v = [] ∨ Spells ['v'] v) ∧ (epoch = [] ∨ ∃ n, IsNumber n ∧ epoch = n ++ ['!']) ∧
    IsRelease release ∧ IsPreTail tail ∧ s = v ++ (epoch ++ (release ++ tail))

/-! ## The grammar describes the spellings -/

theorem matches_separator_iff (s : List Char) : separator.Matches s ↔ IsGap s := by
  have either : ∀ c : Char, ['-', '_', '.'].contains c = Parts.isSeparator c := by
    intro c
    simp [Parts.isSeparator, Bool.or_assoc, Bool.beq_eq_decide_eq]
  simp only [separator, IsGap, Pattern.matches_optional_iff, Pattern.oneOf, Pattern.matches_one_iff, either]

theorem matches_many_digit_iff (s : List Char) : (Pattern.many Pattern.digit).Matches s ↔ IsDigits s :=
  Pattern.matches_many_one_iff

theorem matches_digits_iff (s : List Char) : digits.Matches s ↔ IsNumber s := by
  unfold digits Pattern.oneOrMore
  rw [Pattern.matches_seq_iff]
  constructor
  · rintro ⟨t, u, ht, hu, rfl⟩
    obtain ⟨d, hd, rfl⟩ := Pattern.matches_one_iff.mp ht
    exact ⟨nofun, List.forall_mem_cons.mpr ⟨hd, (matches_many_digit_iff u).mp hu⟩⟩
  · rintro ⟨some, each⟩
    obtain ⟨d, rest, rfl⟩ := List.exists_cons_of_ne_nil some
    obtain ⟨hd, hrest⟩ := List.forall_mem_cons.mp each
    exact ⟨[d], rest, .one hd, (matches_many_digit_iff rest).mpr hrest, rfl⟩

/-- A segment, however the pattern for its number is written. -/
theorem matches_segment_iff {labels : List String} {number : Pattern} (lower : ∀ w ∈ labels, IsLowerCase w.toList)
    (digits : ∀ s, number.Matches s ↔ IsDigits s) (s : List Char) :
    (Pattern.sequence [separator, oneOfWords labels, separator, number]).Matches s ↔ Segment labels s := by
  unfold oneOfWords
  simp only [Pattern.matches_sequence_cons_iff, Pattern.sequence_singleton, Pattern.matches_choice_iff, matches_separator_iff,
    List.mem_map, digits]
  constructor
  · rintro ⟨before, _, gap, ⟨name, _, ⟨_, ⟨w, known, rfl⟩, spelled⟩, ⟨after, number, gap', digits, rfl⟩, rfl⟩, rfl⟩
    exact .intro known gap ((matches_word_iff (lower w known) name).mp spelled) gap' digits
  · rintro ⟨known, gap, spelled, gap', digits⟩
    exact ⟨_, _, gap, ⟨_, _, ⟨_, ⟨_, known, rfl⟩, (matches_word_iff (lower _ known) _).mpr spelled⟩,
      ⟨_, _, gap', digits, rfl⟩, rfl⟩, rfl⟩

theorem matches_labelled_iff {labels : List String} (lower : ∀ w ∈ labels, IsLowerCase w.toList) (s : List Char) :
    (labelled labels).Matches s ↔ Segment labels s :=
  matches_segment_iff lower matches_many_digit_iff s

/-- A segment keeps to the labels, whatever their order. -/
theorem Segment.congr {labels labels' : List String} (same : ∀ w, w ∈ labels ↔ w ∈ labels') {s : List Char} :
    Segment labels s ↔ Segment labels' s := by
  constructor
  · rintro ⟨known, gap, spelled, gap', digits⟩
    exact .intro ((same _).mp known) gap spelled gap' digits
  · rintro ⟨known, gap, spelled, gap', digits⟩
    exact .intro ((same _).mpr known) gap spelled gap' digits

theorem matches_minors_iff (s : List Char) :
    (Pattern.many (.seq (.char '.') digits)).Matches s ↔
      ∃ minors : List (List Char), (∀ n ∈ minors, IsNumber n) ∧ s = minors.flatMap ('.' :: ·) := by
  have dotted : ∀ t, (Pattern.seq (.char '.') digits).Matches t ↔ ∃ n, IsNumber n ∧ t = '.' :: n := by
    intro t
    simp only [Pattern.matches_seq_iff, matches_digits_iff, Pattern.char, Pattern.matches_one_iff, beq_iff_eq]
    constructor
    · rintro ⟨_, n, ⟨_, rfl, rfl⟩, number, rfl⟩
      exact ⟨n, number, rfl⟩
    · rintro ⟨n, number, rfl⟩
      exact ⟨['.'], n, ⟨'.', rfl, rfl⟩, number, rfl⟩
  rw [Pattern.matches_many_iff]
  constructor
  · rintro ⟨pieces, each, rfl⟩
    induction pieces with
    | nil => exact ⟨[], nofun, rfl⟩
    | cons t pieces ih =>
      obtain ⟨first, rest⟩ := List.forall_mem_cons.mp each
      obtain ⟨n, number, rfl⟩ := (dotted t).mp first
      obtain ⟨minors, numbers, e⟩ := ih rest
      exact ⟨n :: minors, List.forall_mem_cons.mpr ⟨number, numbers⟩, by rw [List.flatten_cons, e, List.flatMap_cons]⟩
  · rintro ⟨minors, numbers, rfl⟩
    refine ⟨minors.map ('.' :: ·), ?_, by rw [List.flatMap_def]⟩
    intro t ht
    obtain ⟨n, hn, rfl⟩ := List.mem_map.mp ht
    exact (dotted _).mpr ⟨n, numbers n hn, rfl⟩

theorem matches_epoch_iff (s : List Char) :
    (Pattern.seq digits (.char '!')).Matches s ↔ ∃ n, IsNumber n ∧ s = n ++ ['!'] := by
  simp only [Pattern.matches_seq_iff, matches_digits_iff, Pattern.char, Pattern.matches_one_iff, beq_iff_eq]
  constructor
  · rintro ⟨n, _, number, ⟨_, rfl, rfl⟩, rfl⟩
    exact ⟨n, number, rfl⟩
  · rintro ⟨n, number, rfl⟩
    exact ⟨n, ['!'], number, ⟨'!', rfl, rfl⟩, rfl⟩

theorem matches_post_iff {p : Pattern} (segment : ∀ s, p.Matches s ↔ Segment (labelsOf Parts.postLabels) s) (s : List Char) :
    (Pattern.alt (.seq (.char '-') digits) p).Matches s ↔ IsPost s := by
  rw [Pattern.matches_alt_iff, segment, Pattern.matches_seq_iff, IsPost]
  simp only [matches_digits_iff, Pattern.char, Pattern.matches_one_iff, beq_iff_eq]
  refine or_congr_left ⟨?_, ?_⟩
  · rintro ⟨_, n, ⟨_, rfl, rfl⟩, number, rfl⟩
    exact ⟨n, number, rfl⟩
  · rintro ⟨n, number, rfl⟩
    exact ⟨['-'], n, ⟨'-', rfl, rfl⟩, number, rfl⟩

/-- Whatever patterns describe the segments: with them after it, a release describes just the spellings. -/
theorem matches_pieces_iff {pre post dev : Pattern} (hpre : ∀ s, pre.Matches s ↔ Segment (labelsOf Parts.preLabels) s)
    (hpost : ∀ s, post.Matches s ↔ IsPost s) (hdev : ∀ s, dev.Matches s ↔ Segment (labelsOf Parts.devLabels) s) (s : List Char) :
    (Pattern.sequence [.optional (word "v"), .optional (.seq digits (.char '!')), digits, .many (.seq (.char '.') digits),
      .optional pre, .optional post, .optional dev]).Matches s ↔ IsSpelling s := by
  have v : ∀ t, (word "v").Matches t ↔ Spells ['v'] t := matches_word_iff (by decide)
  simp only [Pattern.matches_sequence_cons_iff, Pattern.matches_optional_iff, Pattern.sequence_singleton,
    matches_digits_iff, matches_minors_iff, v, matches_epoch_iff, hpre, hpost, hdev]
  constructor
  · rintro ⟨v, _, hv, ⟨e, _, he, ⟨major, _, hmajor, ⟨_, _, ⟨minors, hminors, rfl⟩,
      ⟨pre, _, hpre, ⟨post, dev, hpost, hdev, rfl⟩, rfl⟩, rfl⟩, rfl⟩, rfl⟩, rfl⟩
    exact ⟨v, e, _, _, hv, he, ⟨major, minors, hmajor, hminors, rfl⟩, ⟨pre, _, hpre, ⟨post, dev, hpost, hdev, rfl⟩, rfl⟩,
      by rw [List.append_assoc]⟩
  · rintro ⟨v, e, _, _, hv, he, ⟨major, minors, hmajor, hminors, rfl⟩, ⟨pre, _, hpre, ⟨post, dev, hpost, hdev, rfl⟩, rfl⟩, rfl⟩
    exact ⟨v, _, hv, ⟨e, _, he, ⟨major, _, hmajor, ⟨_, _, ⟨minors, hminors, rfl⟩,
      ⟨pre, _, hpre, ⟨post, dev, hpost, hdev, rfl⟩, rfl⟩, rfl⟩, rfl⟩, rfl⟩, by simp only [List.append_assoc]⟩

/-- The grammar of public versions describes just the spellings. -/
theorem matches_publicVersion_iff (s : List Char) : publicVersion.Matches s ↔ IsSpelling s := by
  refine matches_pieces_iff ?_ (matches_post_iff (matches_labelled_iff (by decide))) (matches_labelled_iff (by decide)) s
  intro t
  rw [matches_labelled_iff (by decide)]
  exact Segment.congr (by simp [labelsOf, Parts.preLabels]; grind)

/-! ## The characters of a spelling -/

/-- The characters that may stand in a spelling of a version. -/
def isVersionCharacter (c : Char) : Bool := foldsToLetter c || c.isDigit || ['-', '_', '.', '!'].contains c

/-- A text in the grammar holds no other characters. -/
theorem isVersionCharacter_of_matches {s : List Char} (h : publicVersion.Matches s) : ∀ c ∈ s, isVersionCharacter c = true := by
  have digit : ∀ c : Char, c.isDigit = true → isVersionCharacter c = true := by
    intro c hc
    simp [isVersionCharacter, hc]
  have mark : ∀ m, isVersionCharacter m = true → ∀ c, (c == m) = true → isVersionCharacter c = true := by
    intro m hm c same
    rwa [beq_iff_eq.mp same]
  have letters : ∀ w : String, IsLowerCase w.toList → (word w).Reads fun c => isVersionCharacter c = true := by
    intro w lower
    refine Pattern.reads_sequence fun p hp => ?_
    obtain ⟨l, hl, rfl⟩ := List.mem_map.mp hp
    intro c folds
    simp [isVersionCharacter, foldsToLetter_of_foldsTo (lower l hl) folds]
  have gap : separator.Reads fun c => isVersionCharacter c = true := by
    have known : ∀ c ∈ ['-', '_', '.'], isVersionCharacter c = true := List.all_eq_true.mp (by decide)
    exact ⟨trivial, fun c hc => known c (List.contains_iff_mem.mp hc)⟩
  have segment : ∀ labels : List String, (∀ w ∈ labels, IsLowerCase w.toList) →
      (labelled labels).Reads fun c => isVersionCharacter c = true := by
    intro labels lower
    have names : (oneOfWords labels).Reads fun c => isVersionCharacter c = true := by
      refine Pattern.reads_choice fun p hp => ?_
      obtain ⟨w, hw, rfl⟩ := List.mem_map.mp hp
      exact letters w (lower w hw)
    exact ⟨gap, names, gap, digit⟩
  refine h.reads ⟨⟨trivial, letters "v" (by decide)⟩, ⟨trivial, ⟨digit, digit⟩, mark '!' (by decide)⟩, ⟨digit, digit⟩,
    ⟨mark '.' (by decide), digit, digit⟩, ⟨trivial, segment _ (by decide)⟩, ⟨trivial, ⟨mark '-' (by decide), digit, digit⟩,
    segment _ (by decide)⟩, ⟨trivial, segment _ (by decide)⟩⟩

theorem isVersionCharacter_of_mem {v : Version} {c : Char} (h : c ∈ v.text.toList) : isVersionCharacter c = true :=
  isVersionCharacter_of_matches (Pattern.accepts_iff.mp v.accepted) c h

/-- A version has at least one digit. -/
theorem exists_digit (v : Version) : ∃ d ∈ v.text.toList, d.isDigit = true := by
  obtain ⟨mark, epoch, release, rest, -, -, ⟨major, minors, number, -, rfl⟩, -, whole⟩ :=
    (matches_publicVersion_iff _).mp (Pattern.accepts_iff.mp v.accepted)
  obtain ⟨d, more, rfl⟩ := List.exists_cons_of_ne_nil number.1
  exact ⟨d, by simp [whole], number.2 d List.mem_cons_self⟩

/-- No character of a spelling is blank. -/
theorem isBlank_of_isVersionCharacter {c : Char} (h : isVersionCharacter c = true) : isBlank c = false := by
  rw [isVersionCharacter, Bool.or_eq_true, Bool.or_eq_true] at h
  rcases h with (letter | digit) | listed
  · exact isBlank_of_foldsToLetter letter
  · exact isBlank_of_isDigit digit
  · have plain : ['-', '_', '.', '!'].all (!isBlank ·) = true := by decide
    simpa using List.all_eq_true.mp plain c (List.contains_iff_mem.mp listed)

end ReleaseGate.Version
