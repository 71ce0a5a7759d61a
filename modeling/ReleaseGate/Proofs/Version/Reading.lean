import ReleaseGate.Proofs.Version.Spelling

/-!
# What the reader of versions takes

`Parts.read?` never goes back: it takes the longest number, the first label of a table and the separator after a label, whatever
comes then. Each of its readers is described by the text before which it stops: a number by `NoDigit`, a label by `MayFollow`, a
release by `EndsRelease`. A tail of optional segments begins as `Begins` says, so that none of its characters is taken by the reader
before it; and a segment is not read where another stands.
-/

namespace ReleaseGate.Parts

open Text Version

/-! ## Characters -/

theorem folded_eq_self {c : Char} (ascii : c.toNat < 0x80) (plain : ¬(65 ≤ c.toNat ∧ c.toNat ≤ 90)) : folded c = c := by
  have long : c ≠ 'ſ' := by
    rintro rfl
    exact absurd ascii (by decide)
  have kelvin : c.toNat ≠ 0x212a := by omega
  rw [folded, if_neg long, if_neg kelvin, toLower_eq_self plain]

/-- No digit is a letter under case folding. -/
theorem isDigit_eq_false {c : Char} (letter : (folded c).isLower = true) : c.isDigit = false := by
  apply Bool.eq_false_iff.mpr
  intro digit
  have bounds := (isDigit_iff c).mp digit
  rw [folded_eq_self (by omega) (by omega), isLower_iff] at letter
  omega

/-- No separator is a letter under case folding. -/
theorem isSeparator_eq_false {c : Char} (letter : (folded c).isLower = true) : isSeparator c = false := by
  apply Bool.eq_false_iff.mpr
  intro separator
  simp only [isSeparator, Bool.or_eq_true, beq_iff_eq] at separator
  rcases separator with (rfl | rfl) | rfl
  all_goals exact absurd letter (by decide)

theorem isSeparator_of_isDigit {c : Char} (digit : c.isDigit = true) : isSeparator c = false := by
  apply Bool.eq_false_iff.mpr
  intro separator
  simp only [isSeparator, Bool.or_eq_true, beq_iff_eq] at separator
  rcases separator with (rfl | rfl) | rfl
  all_goals exact absurd digit (by decide)

/-! ## Numbers -/

/-- A text that does not begin with a digit. -/
def NoDigit (s : List Char) : Prop := ∀ c ∈ s.head?, c.isDigit = false

/-- The number that some digits write. -/
def numberOf (digits : List Char) : Nat := digits.foldl (fun n c => n * 10 + digitValue c) 0

theorem numberFrom_append (n : Nat) {digits rest : List Char} (hd : IsDigits digits) (hr : NoDigit rest) :
    numberFrom n (digits ++ rest) = (digits.foldl (fun n c => n * 10 + digitValue c) n, rest) := by
  induction digits generalizing n with
  | nil =>
    cases rest with
    | nil => rfl
    | cons c rest =>
      have stop : c.isDigit = false := hr c rfl
      simp [numberFrom, stop]
  | cons d digits ih =>
    obtain ⟨first, more⟩ := List.forall_mem_cons.mp hd
    rw [List.cons_append, numberFrom, if_pos first, ih _ more, List.foldl_cons]

/-- A number is read up to the first character that is no digit. -/
theorem readNumber?_append {digits rest : List Char} (hd : IsNumber digits) (hr : NoDigit rest) :
    readNumber? (digits ++ rest) = some (numberOf digits, rest) := by
  obtain ⟨some_digit, all⟩ := hd
  obtain ⟨d, more, rfl⟩ := List.exists_cons_of_ne_nil some_digit
  obtain ⟨first, others⟩ := List.forall_mem_cons.mp all
  rw [List.cons_append, readNumber?, if_pos first, numberFrom_append _ others hr, numberOf, List.foldl_cons, Nat.zero_mul,
    Nat.zero_add]

theorem readNumber?_eq_none {s : List Char} (h : NoDigit s) : readNumber? s = none := by
  cases s with
  | nil => rfl
  | cons c rest =>
    have stop : c.isDigit = false := h c rfl
    simp [readNumber?, stop]

/-! ## Separators -/

theorem dropSeparator_eq_self {s : List Char} (h : ∀ c ∈ s.head?, isSeparator c = false) : dropSeparator s = s := by
  cases s with
  | nil => rfl
  | cons c rest => simp [dropSeparator, h c rfl]

/-- A separator is dropped from a text that goes on with none. -/
theorem dropSeparator_append {gap s : List Char} (hg : IsGap gap) (h : ∀ c ∈ s.head?, isSeparator c = false) :
    dropSeparator (gap ++ s) = s := by
  rcases hg with rfl | ⟨c, separator, rfl⟩
  · exact dropSeparator_eq_self h
  · simp [dropSeparator, separator]

/-- The number of a segment is read, when it is written. -/
theorem readLabelNumber_number {gap digits rest : List Char} (hg : IsGap gap) (hd : IsNumber digits) (hr : NoDigit rest) :
    readLabelNumber (gap ++ (digits ++ rest)) = (numberOf digits, rest) := by
  have first : ∀ c ∈ (digits ++ rest).head?, isSeparator c = false := by
    obtain ⟨d, more, rfl⟩ := List.exists_cons_of_ne_nil hd.1
    rintro c ⟨⟩
    exact isSeparator_of_isDigit (hd.2 d List.mem_cons_self)
  rw [readLabelNumber, dropSeparator_append hg first, readNumber?_append hd hr]

/-- A segment without a number has number zero; a separator that follows is dropped all the same. -/
theorem readLabelNumber_of_noDigit {s rest : List Char} (dropped : dropSeparator s = rest) (hr : NoDigit rest) :
    readLabelNumber s = (0, rest) := by
  rw [readLabelNumber, dropped, readNumber?_eq_none hr]

/-! ## Labels -/

/-- A text that goes on after a label: it ends, or begins with a digit, a separator, or one of some letters. -/
def MayFollow (letters : List Char) (s : List Char) : Prop :=
  ∀ c ∈ s.head?, folded c ∈ letters ∨ c.isDigit = true ∨ isSeparator c = true

/-- A label cannot be read from a text that begins with another word and goes on as `MayFollow` says. -/
def isApart (letters : List Char) : List Char → List Char → Bool
  | [], _ => false
  | l :: _, [] => !letters.contains l
  | l :: label, w :: word => l != w || isApart letters label word

theorem afterLabel?_of_spells {label name : List Char} (rest : List Char) (lower : IsLowerCase label)
    (spelled : Spells label name) : afterLabel? label (name ++ rest) = some rest := by
  induction label generalizing name with
  | nil =>
    obtain rfl : name = [] := List.map_eq_nil_iff.mp spelled
    rfl
  | cons l label ih =>
    obtain ⟨c, name, rfl, letter, more⟩ := List.map_eq_cons_iff.mp spelled
    obtain ⟨first, others⟩ := List.forall_mem_cons.mp lower
    have read : foldsTo l c = true := (foldsTo_iff first c).mpr letter
    rw [List.cons_append, afterLabel?, if_pos read]
    exact ih others more

theorem afterLabel?_of_isApart {letters label word name rest : List Char} (lower : IsLowerCase label)
    (spelled : Spells word name) (follows : MayFollow letters rest) (apart : isApart letters label word = true) :
    afterLabel? label (name ++ rest) = none := by
  induction label generalizing word name with
  | nil => cases word <;> cases apart
  | cons l label ih =>
    obtain ⟨first, others⟩ := List.forall_mem_cons.mp lower
    cases word with
    | nil =>
      obtain rfl : name = [] := List.map_eq_nil_iff.mp spelled
      cases rest with
      | nil => rfl
      | cons c rest =>
        have other : l ∉ letters := by simpa [isApart] using apart
        have unread : ¬foldsTo l c = true := by
          intro read
          have same := (foldsTo_iff first c).mp read
          have letter : (folded c).isLower = true := same.symm ▸ first
          rcases follows c rfl with known | digit | separator
          · exact other (same ▸ known)
          · exact absurd digit (by rw [isDigit_eq_false letter]; decide)
          · exact absurd separator (by rw [isSeparator_eq_false letter]; decide)
        rw [List.nil_append, afterLabel?, if_neg unread]
    | cons w word =>
      obtain ⟨c, name, rfl, letter, more⟩ := List.map_eq_cons_iff.mp spelled
      rw [List.cons_append, afterLabel?]
      split
      next read =>
        have same : l = w := ((foldsTo_iff first c).mp read).symm.trans letter
        have apart : isApart letters label word = true := by simpa [isApart, same] using apart
        exact ih others more apart
      next => rfl

/-- No label of a table is read from a text that begins with a word that is apart from them all. -/
theorem readSegment?_eq_none {α : Type} {table : List (String × α)} {letters word name rest s : List Char}
    (lower : ∀ e ∈ table, IsLowerCase e.1.toList) (dropped : dropSeparator s = name ++ rest)
    (spelled : Spells word name) (follows : MayFollow letters rest)
    (apart : ∀ e ∈ table, isApart letters e.1.toList word = true) : readSegment? table s = none := by
  unfold readSegment?
  rw [dropped, List.findSome?_eq_none_iff]
  rintro ⟨label, meaning⟩ he
  have unread := afterLabel?_of_isApart (lower _ he) spelled follows (apart _ he)
  simp [unread]

/-- A label of a table is read where it stands, when it is apart from the labels before it. -/
theorem readSegment?_of_spells {α : Type} {table : List (String × α)} {letters name rest s : List Char} {entry : String × α}
    (lower : ∀ e ∈ table, IsLowerCase e.1.toList) (dropped : dropSeparator s = name ++ rest) (known : entry ∈ table)
    (spelled : Spells entry.1.toList name) (follows : MayFollow letters rest)
    (apart : table.Pairwise fun a b => isApart letters a.1.toList b.1.toList = true) :
    readSegment? table s = some ((entry.2, (readLabelNumber rest).1), (readLabelNumber rest).2) := by
  unfold readSegment?
  rw [dropped]
  induction table with
  | nil => cases known
  | cons e table ih =>
    obtain ⟨first, others⟩ := List.forall_mem_cons.mp lower
    obtain ⟨before, later⟩ := List.pairwise_cons.mp apart
    rcases List.mem_cons.mp known with rfl | known
    · have read := afterLabel?_of_spells rest first spelled
      simp [read]
    · have unread := afterLabel?_of_isApart first spelled follows (before _ known)
      simpa [List.findSome?_cons, unread] using ih others known later

/-! ## Tails -/

/-- How a tail begins: with nothing, with a number after a hyphen, or with one of some letters, before which a separator may
stand. -/
inductive Begins (letters : List Char) : List Char → Prop where
  | nothing : Begins letters []
  | number {d : Char} {rest : List Char} (digit : d.isDigit = true) : Begins letters ('-' :: d :: rest)
  | letter {gap : List Char} {c : Char} {rest : List Char} (hg : IsGap gap) (hc : folded c ∈ letters) :
      Begins letters (gap ++ c :: rest)

theorem Begins.mono {letters more s : List Char} (sub : letters ⊆ more) (h : Begins letters s) : Begins more s := by
  cases h with
  | nothing => exact .nothing
  | number digit => exact .number digit
  | letter hg hc => exact .letter hg (sub hc)

theorem Begins.mayFollow {letters s : List Char} (h : Begins letters s) : MayFollow letters s := by
  cases h with
  | nothing => exact nofun
  | number digit =>
    rintro c ⟨⟩
    exact .inr (.inr rfl)
  | letter hg hc =>
    rcases hg with rfl | ⟨g, separator, rfl⟩
    · rintro c ⟨⟩
      exact .inl hc
    · rintro c ⟨⟩
      exact .inr (.inr separator)

theorem Begins.noDigit {letters s : List Char} (lower : IsLowerCase letters) (h : Begins letters s) : NoDigit s := by
  cases h with
  | nothing => exact nofun
  | number digit =>
    rintro c ⟨⟩
    rfl
  | letter hg hc =>
    rcases hg with rfl | ⟨g, separator, rfl⟩
    · rintro c ⟨⟩
      exact isDigit_eq_false (lower _ hc)
    · rintro c ⟨⟩
      cases digit : g.isDigit with
      | false => rfl
      | true => exact absurd separator (by rw [isSeparator_of_isDigit digit]; decide)

/-- What follows a label before a tail. -/
theorem mayFollow_number {letters gap digits tail : List Char} (hg : IsGap gap) (hd : IsDigits digits)
    (begins : Begins letters tail) : MayFollow letters (gap ++ (digits ++ tail)) := by
  rcases hg with rfl | ⟨g, separator, rfl⟩
  · cases digits with
    | nil => exact begins.mayFollow
    | cons d digits =>
      rintro c ⟨⟩
      exact .inr (.inl (hd d List.mem_cons_self))
  · rintro c ⟨⟩
    exact .inr (.inr separator)

/-- Words in lower-case letters, of which the first is one of some. -/
def AreLabels (letters : List Char) (labels : List String) : Prop :=
  ∀ w ∈ labels, IsLowerCase w.toList ∧ w.toList.head?.any letters.contains = true

/-- A spelling of such a word begins with its letter. -/
theorem exists_cons_of_spells {letters : List Char} {labels : List String} {word : String} {name : List Char}
    (words : AreLabels letters labels) (known : word ∈ labels) (spelled : Spells word.toList name) :
    ∃ c more, name = c :: more ∧ folded c ∈ letters ∧ (folded c).isLower = true := by
  obtain ⟨lower, first⟩ := words word known
  unfold Spells at spelled
  cases letters_of : word.toList with
  | nil => simp [letters_of] at first
  | cons l rest =>
    rw [letters_of] at spelled lower first
    obtain ⟨c, more, rfl, rfl, -⟩ := List.map_eq_cons_iff.mp spelled
    exact ⟨c, more, rfl, by simpa using first, lower _ List.mem_cons_self⟩

/-- The separator before a label is dropped, and the label is left. -/
theorem dropSeparator_name {letters : List Char} {labels : List String} {word : String} {gap name : List Char} (rest : List Char)
    (words : AreLabels letters labels) (known : word ∈ labels) (hg : IsGap gap) (spelled : Spells word.toList name) :
    dropSeparator (gap ++ (name ++ rest)) = name ++ rest ∧ NoDigit (name ++ rest) := by
  obtain ⟨c, more, rfl, -, letter⟩ := exists_cons_of_spells words known spelled
  refine ⟨dropSeparator_append hg ?_, ?_⟩
  · rintro d ⟨⟩
    exact isSeparator_eq_false letter
  · rintro d ⟨⟩
    exact isDigit_eq_false letter

theorem begins_of_segment {letters : List Char} {labels : List String} {s : List Char} (rest : List Char)
    (words : AreLabels letters labels) (h : Segment labels s) : Begins letters (s ++ rest) := by
  obtain ⟨known, gap, spelled, -, -⟩ := h
  obtain ⟨c, more, rfl, letter, -⟩ := exists_cons_of_spells words known spelled
  rw [List.append_assoc]
  exact .letter gap letter

/-- A segment without the separator before it is a segment. -/
theorem exists_dropSeparator_segment {letters : List Char} {labels : List String} {s : List Char} (rest : List Char)
    (words : AreLabels letters labels) (h : Segment labels s) :
    ∃ t, dropSeparator (s ++ rest) = t ++ rest ∧ Segment labels t ∧ NoDigit (t ++ rest) := by
  obtain ⟨known, gap, spelled, gap', digits⟩ := h
  obtain ⟨dropped, stops⟩ := dropSeparator_name (_ ++ (_ ++ rest)) words known gap spelled
  refine ⟨_, ?_, .intro known (.inl rfl) spelled gap' digits, ?_⟩
  · simpa only [List.append_assoc, List.nil_append] using dropped
  · simpa only [List.append_assoc, List.nil_append] using stops

/-- The first letters of the segments that may follow a post-release. -/
def devLetters : List Char := ['d']

/-- The first letters of the segments that may follow a pre-release. -/
def postLetters : List Char := ['p', 'r', 'd']

/-- The first letters of the segments that may follow a release. -/
def preLetters : List Char := ['a', 'b', 'c', 'p', 'r', 'd']

theorem areLabels_dev : AreLabels devLetters (labelsOf devLabels) := by
  unfold AreLabels
  decide

theorem areLabels_post : AreLabels postLetters (labelsOf postLabels) := by
  unfold AreLabels
  decide

theorem areLabels_pre : AreLabels preLetters (labelsOf preLabels) := by
  unfold AreLabels
  decide

theorem begins_of_isDevTail {s : List Char} (h : IsDevTail s) : Begins devLetters s := by
  rcases h with rfl | segment
  · exact .nothing
  · simpa using begins_of_segment [] areLabels_dev segment

theorem begins_of_isPostTail {s : List Char} (h : IsPostTail s) : Begins postLetters s := by
  obtain ⟨post, dev, hpost, hdev, rfl⟩ := h
  rcases hpost with rfl | ⟨n, number, rfl⟩ | segment
  · exact (begins_of_isDevTail hdev).mono (by decide)
  · obtain ⟨d, more, rfl⟩ := List.exists_cons_of_ne_nil number.1
    exact .number (number.2 d List.mem_cons_self)
  · exact begins_of_segment dev areLabels_post segment

theorem begins_of_isPreTail {s : List Char} (h : IsPreTail s) : Begins preLetters s := by
  obtain ⟨pre, rest, hpre, hrest, rfl⟩ := h
  rcases hpre with rfl | segment
  · exact (begins_of_isPostTail hrest).mono (by decide)
  · exact begins_of_segment rest areLabels_pre segment

theorem noDigit_of_isDevTail {s : List Char} (h : IsDevTail s) : NoDigit s := (begins_of_isDevTail h).noDigit (by decide)

theorem noDigit_of_isPostTail {s : List Char} (h : IsPostTail s) : NoDigit s := (begins_of_isPostTail h).noDigit (by decide)

/-! ## Segments that are not there -/

/-- No segment of a table is read where another stands whose labels are apart from those of the table. -/
theorem readSegment?_other {α : Type} {table : List (String × α)} {labels : List String} {letters first own : List Char}
    {s rest : List Char} (words : AreLabels first labels) (tableWords : AreLabels own (labelsOf table))
    (apart : ∀ w ∈ labels, ∀ e ∈ table, isApart letters e.1.toList w.toList = true) (h : Segment labels s)
    (begins : Begins letters rest) : readSegment? table (s ++ rest) = none := by
  obtain ⟨known, gap, spelled, gap', digits⟩ := h
  obtain ⟨dropped, -⟩ := dropSeparator_name (_ ++ (_ ++ rest)) words known gap spelled
  have lower : ∀ e ∈ table, IsLowerCase e.1.toList := fun e he => (tableWords _ (List.mem_map_of_mem he)).1
  simp only [List.append_assoc]
  exact readSegment?_eq_none lower dropped spelled (mayFollow_number gap' digits begins) (apart _ known)

/-- No segment is read where a number stands after a hyphen, or nothing. -/
theorem readSegment?_number {α : Type} {table : List (String × α)} {own s rest : List Char}
    (tableWords : AreLabels own (labelsOf table)) (dropped : dropSeparator s = rest)
    (digit : ∀ c ∈ rest.head?, c.isDigit = true) : readSegment? table s = none := by
  have lower : ∀ e ∈ table, IsLowerCase e.1.toList := fun e he => (tableWords _ (List.mem_map_of_mem he)).1
  have apart : ∀ e ∈ table, isApart [] e.1.toList [] = true := by
    intro e he
    have first := (tableWords _ (List.mem_map_of_mem he)).2
    cases letters_of : e.1.toList with
    | nil => simp [letters_of] at first
    | cons l more => rfl
  have follows : MayFollow [] rest := fun c hc => .inr (.inl (digit c hc))
  have nameless : dropSeparator s = [] ++ rest := dropped
  have spelled : Spells [] [] := rfl
  exact readSegment?_eq_none lower nameless spelled follows apart

/-- No number follows a hyphen that stands before a label. -/
theorem noDigit_after_hyphen {letters : List Char} {labels : List String} {s rest more : List Char}
    (words : AreLabels letters labels) (h : Segment labels s) (hyphen : s ++ rest = '-' :: more) : NoDigit more := by
  obtain ⟨t, dropped, -, stops⟩ := exists_dropSeparator_segment rest words h
  have same : more = t ++ rest := by
    rw [← dropped, hyphen]
    rfl
  rw [same]
  exact stops

theorem readPost_of_noNumber {s : List Char} (h : ∀ more, s = '-' :: more → NoDigit more) :
    readPost s = match readSegment? postLabels s with
      | some ((_, n), rest) => (some n, rest)
      | none => (none, s) := by
  unfold readPost
  generalize readSegment? postLabels s = labelled
  dsimp only
  split
  next more =>
    have unread := readNumber?_eq_none (h more rfl)
    cases labelled with
    | none => simp only [unread]
    | some segment => simp only [unread]
  next => rfl

/-- No pre-release is read where none stands. -/
theorem readSegment?_pre_eq_none {s : List Char} (h : IsPostTail s) : readSegment? preLabels s = none := by
  obtain ⟨post, dev, hpost, hdev, rfl⟩ := h
  rcases hpost with rfl | ⟨n, number, rfl⟩ | segment
  · rcases hdev with rfl | segment
    · exact readSegment?_number areLabels_pre rfl (by simp [dropSeparator])
    · have ends : Begins [] [] := .nothing
      have unread : readSegment? preLabels (dev ++ []) = none :=
        readSegment?_other areLabels_dev areLabels_pre (by decide) segment ends
      rwa [List.append_nil] at unread
  · have digit : ∀ c ∈ (n ++ dev).head?, c.isDigit = true := by
      obtain ⟨d, more, rfl⟩ := List.exists_cons_of_ne_nil number.1
      rintro c ⟨⟩
      exact number.2 d List.mem_cons_self
    have dropped : dropSeparator ('-' :: (n ++ dev)) = n ++ dev := rfl
    exact readSegment?_number areLabels_pre dropped digit
  · exact readSegment?_other areLabels_post areLabels_pre (by decide) segment (begins_of_isDevTail hdev)

/-! ## The release and what stands before it -/

/-- A text at which a release ends: neither a digit goes on there nor a dot with a digit after it. -/
def EndsRelease (s : List Char) : Prop := NoDigit s ∧ ∀ more, s = '.' :: more → NoDigit more

theorem releaseFrom_digit (n : Nat) {c : Char} (rest : List Char) (digit : c.isDigit = true) :
    releaseFrom n (c :: rest) = releaseFrom (n * 10 + digitValue c) rest := by
  cases rest <;> simp [releaseFrom, digit]

theorem releaseFrom_dot (n : Nat) {d : Char} (more : List Char) (digit : d.isDigit = true) :
    releaseFrom n ('.' :: d :: more) =
      ((n, (releaseFrom (digitValue d) more).1.1 :: (releaseFrom (digitValue d) more).1.2),
        (releaseFrom (digitValue d) more).2) := by
  have period : ('.' : Char).isDigit = false := rfl
  simp [releaseFrom, digit, period]

theorem releaseFrom_end (n : Nat) {rest : List Char} (ends : EndsRelease rest) : releaseFrom n rest = ((n, []), rest) := by
  obtain ⟨stops, dot⟩ := ends
  cases rest with
  | nil => rfl
  | cons c rest =>
    have other : c.isDigit = false := stops c rfl
    by_cases period : c = '.'
    · subst period
      cases rest with
      | nil => simp [releaseFrom, other]
      | cons d more =>
        have after : d.isDigit = false := dot _ rfl d rfl
        simp [releaseFrom, other, after]
    · cases rest <;> simp [releaseFrom, other, period]

/-- The digits of the current number are read before what follows them. -/
theorem releaseFrom_digits (n : Nat) {digits : List Char} (rest : List Char) (hd : IsDigits digits) :
    releaseFrom n (digits ++ rest) = releaseFrom (digits.foldl (fun n c => n * 10 + digitValue c) n) rest := by
  induction digits generalizing n with
  | nil => rfl
  | cons d digits ih =>
    obtain ⟨first, more⟩ := List.forall_mem_cons.mp hd
    rw [List.cons_append, releaseFrom_digit n _ first, ih _ more, List.foldl_cons]

theorem releaseFrom_minors (n : Nat) {minors : List (List Char)} {rest : List Char} (hm : ∀ m ∈ minors, IsNumber m)
    (ends : EndsRelease rest) : releaseFrom n (minors.flatMap ('.' :: ·) ++ rest) = ((n, minors.map numberOf), rest) := by
  induction minors generalizing n with
  | nil => exact releaseFrom_end n ends
  | cons m minors ih =>
    obtain ⟨⟨some_digit, all⟩, others⟩ := List.forall_mem_cons.mp hm
    obtain ⟨d, more, rfl⟩ := List.exists_cons_of_ne_nil some_digit
    obtain ⟨first, digits⟩ := List.forall_mem_cons.mp all
    have next : releaseFrom (digitValue d) (more ++ (minors.flatMap ('.' :: ·) ++ rest)) =
        ((numberOf (d :: more), minors.map numberOf), rest) := by
      rw [releaseFrom_digits _ _ digits, ih _ others, numberOf, List.foldl_cons, Nat.zero_mul, Nat.zero_add]
    simp only [List.flatMap_cons, List.cons_append, List.append_assoc]
    rw [releaseFrom_dot n _ first, next, List.map_cons]

/-- A release is read number by number, up to where it ends. -/
theorem readRelease?_append {major : List Char} {minors : List (List Char)} {rest : List Char} (hn : IsNumber major)
    (hm : ∀ m ∈ minors, IsNumber m) (ends : EndsRelease rest) :
    readRelease? (major ++ (minors.flatMap ('.' :: ·) ++ rest)) = some ((numberOf major, minors.map numberOf), rest) := by
  obtain ⟨some_digit, all⟩ := hn
  obtain ⟨d, more, rfl⟩ := List.exists_cons_of_ne_nil some_digit
  obtain ⟨first, digits⟩ := List.forall_mem_cons.mp all
  rw [List.cons_append, readRelease?, if_pos first, releaseFrom_digits _ _ digits, releaseFrom_minors _ hm ends, numberOf,
    List.foldl_cons, Nat.zero_mul, Nat.zero_add]

theorem endsRelease_of_isPreTail {s : List Char} (h : IsPreTail s) : EndsRelease s := by
  have lower : IsLowerCase preLetters := by decide
  refine ⟨(begins_of_isPreTail h).noDigit lower, ?_⟩
  rintro more rfl
  generalize whole : '.' :: more = s at h
  cases begins_of_isPreTail h with
  | nothing => cases whole
  | number digit => cases whole
  | letter hg hc =>
    rcases hg with rfl | ⟨g, separator, rfl⟩
    · cases whole
      exact absurd (lower _ hc) (by decide)
    · cases whole
      rintro d ⟨⟩
      exact isDigit_eq_false (lower _ hc)

theorem dropV_spelled {v s : List Char} (hv : v = [] ∨ Spells ['v'] v) (digit : ∃ d ∈ s.head?, d.isDigit = true) :
    dropV (v ++ s) = s := by
  have lower : ('v' : Char).isLower = true := rfl
  rcases hv with rfl | spelled
  · obtain ⟨d, hd, number⟩ := digit
    cases s with
    | nil => rfl
    | cons c rest =>
      obtain rfl := Option.some.inj hd
      have other : ¬foldsTo 'v' c = true := by
        intro folds
        have letter : (folded c).isLower = true := ((foldsTo_iff lower c).mp folds).symm ▸ lower
        exact absurd number (by rw [isDigit_eq_false letter]; decide)
      rw [List.nil_append, dropV, if_neg other]
  · obtain ⟨c, more, rfl, letter, none_left⟩ := List.map_eq_cons_iff.mp spelled
    obtain rfl := List.map_eq_nil_iff.mp none_left
    rw [List.cons_append, List.nil_append, dropV, if_pos ((foldsTo_iff lower c).mpr letter)]

/-- What follows the first number of a release is no mark of an epoch. -/
theorem readEpoch_release {major : List Char} {minors : List (List Char)} {rest : List Char} (hn : IsNumber major)
    (begins : Begins preLetters rest) :
    readEpoch (major ++ (minors.flatMap ('.' :: ·) ++ rest)) = (0, major ++ (minors.flatMap ('.' :: ·) ++ rest)) := by
  have lower : IsLowerCase preLetters := by decide
  have after : ∀ c ∈ (minors.flatMap ('.' :: ·) ++ rest).head?, c.isDigit = false ∧ c ≠ '!' := by
    cases minors with
    | cons m minors =>
      rintro c ⟨⟩
      decide
    | nil =>
      intro c hc
      refine ⟨begins.noDigit lower c hc, ?_⟩
      rintro rfl
      rcases begins.mayFollow _ hc with letter | digit | separator
      · exact absurd letter (by decide)
      · cases digit
      · cases separator
  unfold readEpoch
  rw [readNumber?_append hn fun c hc => (after c hc).1]
  split
  next n more mark =>
    have same := congrArg Prod.snd (Option.some.inj mark)
    have first : '!' ∈ (minors.flatMap ('.' :: ·) ++ rest).head? := by
      rw [show minors.flatMap ('.' :: ·) ++ rest = '!' :: more from same]
      rfl
    exact absurd rfl (after '!' first).2
  next => rfl

theorem readEpoch_epoch {n : List Char} (rest : List Char) (hn : IsNumber n) :
    readEpoch (n ++ '!' :: rest) = (numberOf n, rest) := by
  have stops : NoDigit ('!' :: rest) := by
    rintro c ⟨⟩
    rfl
  simp only [readEpoch, readNumber?_append hn stops]

end ReleaseGate.Parts
