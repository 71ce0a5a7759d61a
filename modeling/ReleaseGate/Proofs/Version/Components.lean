import ReleaseGate.Proofs.Version.Reading

/-!
# The components of a version

A `Spelling` is a spelling of a version piece by piece: `text` is what is written, and `parts` are the components that the pieces
say. One text can be cut into pieces in two ways, since a number after a hyphen is a post-release or the number of the label before
the hyphen, as in `1.0a-1`. It is the number of the label (`IsGreedy`). `read?_text` says that such a spelling is read as its parts,
so a version shows the components that are read from its text and no others (`shows_iff`).
-/

namespace ReleaseGate

namespace Version

open Parts

/-! ## Spellings piece by piece -/

/-- A number as it is written, with leading zeros or without. -/
structure Numeral where
  digits : List Char
  isNumber : IsNumber digits

/-- The number that is written. -/
def Numeral.value (n : Numeral) : Nat := numberOf n.digits

/-- A segment with a label of a table, as it is written. -/
structure Labelled {α : Type} (table : List (String × α)) where
  entry : String × α
  before : List Char
  name : List Char
  after : List Char
  digits : List Char
  known : entry ∈ table
  gapBefore : IsGap before
  spelled : Spells entry.1.toList name
  gapAfter : IsGap after
  isDigits : IsDigits digits

namespace Labelled

variable {α : Type} {table : List (String × α)}

/-- The text of a segment. -/
def text (l : Labelled table) : List Char := l.before ++ (l.name ++ (l.after ++ l.digits))

/-- The number of a segment: zero, when none is written. -/
def value (l : Labelled table) : Nat := numberOf l.digits

/-- A segment without the separator before its label. -/
def unseparated (l : Labelled table) : Labelled table := { l with before := [], gapBefore := isGap_nil }

end Labelled

/-- A post-release as it is written. -/
inductive PostRelease where
  /-- A number after a hyphen. -/
  | bare (n : Numeral)
  | labelled (l : Labelled postLabels)

namespace PostRelease

/-- The text of a post-release. -/
def text : PostRelease → List Char
  | bare n => '-' :: n.digits
  | labelled l => l.text

/-- The number of a post-release. -/
def value : PostRelease → Nat
  | bare n => n.value
  | labelled l => l.value

end PostRelease

/-- The text of a piece that may be left out. -/
def written {α : Type} (text : α → List Char) : Option α → List Char
  | none => []
  | some a => text a

@[simp] theorem written_none {α : Type} (text : α → List Char) : written text none = [] := rfl

@[simp] theorem written_some {α : Type} (text : α → List Char) (a : α) : written text (some a) = text a := rfl

/-- A spelling of a version, piece by piece. -/
structure Spelling where
  /-- The letter `v`, or nothing. -/
  mark : List Char
  isMark : mark = [] ∨ Spells ['v'] mark
  epoch : Option Numeral
  major : Numeral
  minors : List Numeral
  pre : Option (Labelled preLabels)
  post : Option PostRelease
  dev : Option (Labelled devLabels)

namespace Spelling

/-- The text of the post-release and of what follows it. -/
def postText (t : Spelling) : List Char := written PostRelease.text t.post ++ written Labelled.text t.dev

/-- The text of the pre-release and of what follows it. -/
def preText (t : Spelling) : List Char := written Labelled.text t.pre ++ t.postText

/-- The text of the release. -/
def releaseText (t : Spelling) : List Char := t.major.digits ++ (t.minors.map Numeral.digits).flatMap ('.' :: ·)

/-- What is written. -/
def text (t : Spelling) : List Char :=
  t.mark ++ (written (fun n => n.digits ++ ['!']) t.epoch ++ (t.releaseText ++ t.preText))

/-- The components that the pieces say. An epoch that is left out is epoch 0. -/
def parts (t : Spelling) : Parts :=
  { epoch := (t.epoch.map Numeral.value).getD 0, major := t.major.value, minors := t.minors.map Numeral.value
    pre := t.pre.map fun l => (l.entry.2, l.value), post := t.post.map PostRelease.value, dev := t.dev.map Labelled.value }

/-- Whether a number after a hyphen is that of the label before the hyphen, when there is one: no post-release of such a number
follows a pre-release that ends with its label. -/
def IsGreedy (t : Spelling) : Prop :=
  ∀ l n, t.pre = some l → t.post = some (.bare n) → l.after ++ l.digits ≠ []

end Spelling

/-! ## The texts of spellings -/

section Texts

variable {α : Type} {table : List (String × α)}

theorem Labelled.segment (l : Labelled table) : Segment (labelsOf table) l.text :=
  .intro (List.mem_map_of_mem l.known) l.gapBefore l.spelled l.gapAfter l.isDigits

theorem exists_labelled {s : List Char} (h : Segment (labelsOf table) s) : ∃ l : Labelled table, l.text = s := by
  obtain ⟨known, gap, spelled, gap', digits⟩ := h
  obtain ⟨entry, there, rfl⟩ := List.mem_map.mp known
  exact ⟨⟨entry, _, _, _, _, there, gap, spelled, gap', digits⟩, rfl⟩

/-- What may be left out is nothing or one of the pieces. -/
theorem exists_written_iff {text : α → List Char} {is : List Char → Prop} (each : ∀ s, is s ↔ ∃ a, text a = s) (s : List Char) :
    s = [] ∨ is s ↔ ∃ piece, written text piece = s := by
  constructor
  · rintro (rfl | h)
    · exact ⟨none, rfl⟩
    · obtain ⟨a, rfl⟩ := (each s).mp h
      exact ⟨some a, rfl⟩
  · rintro ⟨piece, rfl⟩
    cases piece with
    | none => exact .inl rfl
    | some a => exact .inr ((each _).mpr ⟨a, rfl⟩)

theorem segment_iff (s : List Char) : Segment (labelsOf table) s ↔ ∃ l : Labelled table, l.text = s :=
  ⟨exists_labelled, fun ⟨l, e⟩ => e ▸ l.segment⟩

theorem isPost_iff (s : List Char) : IsPost s ↔ ∃ p, PostRelease.text p = s := by
  constructor
  · rintro (⟨n, number, rfl⟩ | segment)
    · exact ⟨.bare ⟨n, number⟩, rfl⟩
    · obtain ⟨l, rfl⟩ := exists_labelled segment
      exact ⟨.labelled l, rfl⟩
  · rintro ⟨p, rfl⟩
    cases p with
    | bare n => exact .inl ⟨n.digits, n.isNumber, rfl⟩
    | labelled l => exact .inr l.segment

theorem isDevTail_iff (s : List Char) : IsDevTail s ↔ ∃ dev : Option (Labelled devLabels), written Labelled.text dev = s :=
  exists_written_iff segment_iff s

theorem isPostTail_iff (s : List Char) :
    IsPostTail s ↔ ∃ (post : Option PostRelease) (dev : Option (Labelled devLabels)),
      written PostRelease.text post ++ written Labelled.text dev = s := by
  unfold IsPostTail
  simp only [exists_written_iff isPost_iff, isDevTail_iff]
  constructor
  · rintro ⟨_, _, ⟨post, rfl⟩, ⟨dev, rfl⟩, rfl⟩
    exact ⟨post, dev, rfl⟩
  · rintro ⟨post, dev, rfl⟩
    exact ⟨_, _, ⟨post, rfl⟩, ⟨dev, rfl⟩, rfl⟩

end Texts

namespace Spelling

theorem isPostTail (t : Spelling) : IsPostTail t.postText := (isPostTail_iff _).mpr ⟨t.post, t.dev, rfl⟩

theorem isPreTail (t : Spelling) : IsPreTail t.preText :=
  ⟨written Labelled.text t.pre, t.postText, (exists_written_iff segment_iff _).mpr ⟨t.pre, rfl⟩, t.isPostTail, rfl⟩

end Spelling

theorem isRelease_iff (s : List Char) :
    IsRelease s ↔ ∃ (major : Numeral) (minors : List Numeral),
      major.digits ++ (minors.map Numeral.digits).flatMap ('.' :: ·) = s := by
  constructor
  · rintro ⟨major, minors, number, numbers, rfl⟩
    refine ⟨⟨major, number⟩, minors.attach.map fun m => ⟨m.1, numbers m.1 m.2⟩, ?_⟩
    simp
  · rintro ⟨major, minors, rfl⟩
    refine ⟨major.digits, minors.map Numeral.digits, major.isNumber, ?_, rfl⟩
    intro n hn
    obtain ⟨m, -, rfl⟩ := List.mem_map.mp hn
    exact m.isNumber

/-- The texts in the grammar are the texts of spellings. -/
theorem isSpelling_iff (s : List Char) : IsSpelling s ↔ ∃ t : Spelling, t.text = s := by
  have epochs : ∀ e : List Char, (∃ n, IsNumber n ∧ e = n ++ ['!']) ↔ ∃ n : Numeral, n.digits ++ ['!'] = e := by
    intro e
    constructor
    · rintro ⟨n, number, rfl⟩
      exact ⟨⟨n, number⟩, rfl⟩
    · rintro ⟨n, rfl⟩
      exact ⟨n.digits, n.isNumber, rfl⟩
  constructor
  · rintro ⟨mark, _, _, _, isMark, epoch, release, ⟨_, _, pre, tail, rfl⟩, rfl⟩
    obtain ⟨epochPiece, rfl⟩ := (exists_written_iff epochs _).mp epoch
    obtain ⟨major, minors, rfl⟩ := (isRelease_iff _).mp release
    obtain ⟨prePiece, rfl⟩ := (exists_written_iff segment_iff _).mp pre
    obtain ⟨post, dev, rfl⟩ := (isPostTail_iff _).mp tail
    exact ⟨⟨mark, isMark, epochPiece, major, minors, prePiece, post, dev⟩, rfl⟩
  · rintro ⟨t, rfl⟩
    exact ⟨t.mark, written (fun n => n.digits ++ ['!']) t.epoch, t.releaseText, t.preText, t.isMark,
      (exists_written_iff epochs _).mpr ⟨t.epoch, rfl⟩, (isRelease_iff _).mpr ⟨t.major, t.minors, rfl⟩, t.isPreTail, rfl⟩

/-- A text in the grammar has a spelling in which a number after a hyphen belongs to the label before it. -/
theorem exists_greedy {s : List Char} (h : IsSpelling s) : ∃ t : Spelling, t.text = s ∧ t.IsGreedy := by
  obtain ⟨t, rfl⟩ := (isSpelling_iff s).mp h
  by_cases greedy : t.IsGreedy
  · exact ⟨t, rfl, greedy⟩
  · obtain ⟨l, n, pre, post, ends⟩ : ∃ l n, t.pre = some l ∧ t.post = some (.bare n) ∧ l.after ++ l.digits = [] := by
      simpa [Spelling.IsGreedy] using greedy
    obtain ⟨after, digits⟩ := List.append_eq_nil_iff.mp ends
    -- the hyphen and the number of the post-release are those of the label
    let l' : Labelled preLabels :=
      { l with after := ['-'], digits := n.digits, gapAfter := isGap_singleton rfl, isDigits := n.isNumber.2 }
    refine ⟨{ t with pre := some l', post := none }, ?_, fun _ _ _ none => by cases none⟩
    simp [Spelling.text, Spelling.releaseText, Spelling.preText, Spelling.postText, pre, post, l', Labelled.text, after, digits,
      PostRelease.text]

end Version

namespace Parts

open Text Version

/-! ## What a reader leaves -/

/-- A text that shows a development release with a given number, or none, and nothing else. -/
def SaysDev (d : Option Nat) (s : List Char) : Prop :=
  ∃ dev : Option (Labelled devLabels), written Labelled.text dev = s ∧ dev.map Labelled.value = d

/-- A text that shows a post-release and a development release with given numbers, or none, and nothing else. -/
def SaysPost (p d : Option Nat) (s : List Char) : Prop :=
  ∃ (post : Option PostRelease) (dev : Option (Labelled devLabels)),
    written PostRelease.text post ++ written Labelled.text dev = s ∧ post.map PostRelease.value = p ∧ dev.map Labelled.value = d

theorem SaysDev.isDevTail {d : Option Nat} {s : List Char} (h : SaysDev d s) : IsDevTail s := by
  obtain ⟨dev, text, -⟩ := h
  exact (isDevTail_iff s).mpr ⟨dev, text⟩

theorem SaysPost.isPostTail {p d : Option Nat} {s : List Char} (h : SaysPost p d s) : IsPostTail s := by
  obtain ⟨post, dev, text, -⟩ := h
  exact (isPostTail_iff s).mpr ⟨post, dev, text⟩

section Labels

variable {α : Type} {table : List (String × α)} {letters first : List Char}

/-- The separator before a label is dropped, and the label is left. -/
theorem dropSeparator_labelled (words : AreLabels first (labelsOf table)) (l : Labelled table) (rest : List Char) :
    dropSeparator (l.text ++ rest) = l.unseparated.text ++ rest ∧ NoDigit (l.unseparated.text ++ rest) := by
  have dropped := dropSeparator_name (l.after ++ (l.digits ++ rest)) words (List.mem_map_of_mem l.known) l.gapBefore l.spelled
  simpa [Labelled.text, Labelled.unseparated, List.append_assoc] using dropped

/-- The number of a label is read to a text that shows the same as before: where neither a separator nor a number is written, the
reader looks into the text that follows. -/
theorem readLabelNumber_rest {P : List Char → Prop} {gap digits rest : List Char} (hg : IsGap gap) (hd : IsDigits digits)
    (shown : P rest) (stops : NoDigit rest) (into : gap ++ digits = [] → ∃ after, readLabelNumber rest = (0, after) ∧ P after) :
    ∃ after, readLabelNumber (gap ++ (digits ++ rest)) = (numberOf digits, after) ∧ P after := by
  by_cases noDigits : digits = []
  · subst noDigits
    rcases hg with rfl | ⟨g, separator, rfl⟩
    · exact into rfl
    · have dropped : dropSeparator ([g] ++ ([] ++ rest)) = rest := by simp [dropSeparator, separator]
      exact ⟨rest, readLabelNumber_of_noDigit dropped stops, shown⟩
  · exact ⟨rest, readLabelNumber_number hg ⟨noDigits, hd⟩ stops, shown⟩

/-- A segment of a table is read as what the table says of its label and its number. -/
theorem readSegment?_labelled {P : List Char → Prop} {rest : List Char} (words : AreLabels first (labelsOf table))
    (apart : table.Pairwise fun a b => isApart letters a.1.toList b.1.toList = true) (l : Labelled table)
    (begins : Begins letters rest) (shown : P rest) (stops : NoDigit rest)
    (into : l.after ++ l.digits = [] → ∃ after, readLabelNumber rest = (0, after) ∧ P after) :
    ∃ after, readSegment? table (l.text ++ rest) = some ((l.entry.2, l.value), after) ∧ P after := by
  obtain ⟨dropped, -⟩ := dropSeparator_name (l.after ++ (l.digits ++ rest)) words (List.mem_map_of_mem l.known) l.gapBefore l.spelled
  have lower : ∀ e ∈ table, IsLowerCase e.1.toList := fun e he => (words _ (List.mem_map_of_mem he)).1
  have follows := mayFollow_number l.gapAfter l.isDigits begins
  have read := readSegment?_of_spells lower dropped l.known l.spelled follows apart
  obtain ⟨after, number, left⟩ := readLabelNumber_rest l.gapAfter l.isDigits shown stops into
  rw [number] at read
  have whole : l.text ++ rest = l.before ++ (l.name ++ (l.after ++ (l.digits ++ rest))) := by simp [Labelled.text]
  rw [whole]
  exact ⟨after, read, left⟩

end Labels

/-- A development release that follows a label without a number is left, without the separator before it. -/
theorem SaysDev.readLabelNumber {d : Option Nat} {s : List Char} (h : SaysDev d s) :
    ∃ after, readLabelNumber s = (0, after) ∧ SaysDev d after := by
  obtain ⟨dev, rfl, value⟩ := h
  cases dev with
  | none => exact ⟨[], rfl, none, rfl, value⟩
  | some l =>
    obtain ⟨dropped, stops⟩ := dropSeparator_labelled areLabels_dev l []
    simp only [List.append_nil] at dropped stops
    exact ⟨_, readLabelNumber_of_noDigit dropped stops, some l.unseparated, rfl, value⟩

/-- A development segment is read to the end. -/
theorem SaysDev.readDev {d : Option Nat} {s : List Char} (h : SaysDev d s) : readDev s = (d, []) := by
  unfold Parts.readDev
  obtain ⟨dev, rfl, rfl⟩ := h
  cases dev with
  | none =>
    have nothing : dropSeparator [] = [] := rfl
    rw [written_none, readSegment?_number areLabels_dev nothing nofun]
    rfl
  | some l =>
    have ends : Begins [] [] := .nothing
    obtain ⟨after, read, rfl⟩ := readSegment?_labelled (P := (· = [])) areLabels_dev (by decide) l ends rfl nofun
      fun _ => ⟨[], rfl, rfl⟩
    rw [List.append_nil] at read
    rw [written_some, read]
    rfl

/-- What follows a label without a number is left, without the separator before it, unless it is a number after a hyphen. -/
theorem SaysPost.readLabelNumber {d : Option Nat} {post : Option PostRelease} {s : List Char}
    (labelled : ∀ n, post ≠ some (.bare n)) (h : SaysDev d s) :
    ∃ after, Parts.readLabelNumber (written PostRelease.text post ++ s) = (0, after) ∧
      SaysPost (post.map PostRelease.value) d after := by
  match post, labelled with
  | none, _ =>
    obtain ⟨after, read, dev, text, value⟩ := h.readLabelNumber
    exact ⟨after, read, none, dev, text, rfl, value⟩
  | some (.bare n), labelled => exact absurd rfl (labelled n)
  | some (.labelled l), _ =>
    obtain ⟨dev, rfl, value⟩ := h
    obtain ⟨dropped, stops⟩ := dropSeparator_labelled areLabels_post l (written Labelled.text dev)
    exact ⟨_, readLabelNumber_of_noDigit dropped stops, some (.labelled l.unseparated), dev, rfl, rfl, value⟩

/-- A post-release is read to a text that shows the same development release. -/
theorem SaysPost.readPost {p d : Option Nat} {s : List Char} (h : SaysPost p d s) :
    ∃ after, readPost s = (p, after) ∧ SaysDev d after := by
  obtain ⟨post, dev, rfl, rfl, value⟩ := h
  have shown : SaysDev d (written Labelled.text dev) := ⟨dev, rfl, value⟩
  match post with
  | none =>
    refine ⟨_, ?_, shown⟩
    cases dev with
    | none => rfl
    | some l =>
      have ends : Begins [] [] := .nothing
      have unread : readSegment? postLabels (l.text ++ []) = none :=
        readSegment?_other areLabels_dev areLabels_post (by decide) l.segment ends
      have noNumber : ∀ more, l.text ++ [] = '-' :: more → NoDigit more := fun more => noDigit_after_hyphen areLabels_dev l.segment
      rw [List.append_nil] at unread noNumber
      simp only [written_none, written_some, List.nil_append, Option.map_none]
      rw [readPost_of_noNumber noNumber, unread]
  | some (.bare n) =>
    refine ⟨_, ?_, shown⟩
    simp only [written_some, PostRelease.text, List.cons_append]
    rw [Parts.readPost, readNumber?_append n.isNumber (noDigit_of_isDevTail shown.isDevTail)]
    rfl
  | some (.labelled l) =>
    have begins := begins_of_isDevTail shown.isDevTail
    obtain ⟨after, read, left⟩ := readSegment?_labelled areLabels_post (by decide) l begins shown
      (noDigit_of_isDevTail shown.isDevTail) fun _ => shown.readLabelNumber
    refine ⟨after, ?_, left⟩
    simp only [written_some, PostRelease.text]
    rw [readPost_of_noNumber fun more => noDigit_after_hyphen areLabels_post l.segment, read]
    rfl

/-- A pre-release is read to a text that shows the same post-release and development release. -/
theorem readPre_text (t : Spelling) (greedy : t.IsGreedy) :
    ∃ after, readPre t.preText = (t.parts.pre, after) ∧ SaysPost t.parts.post t.parts.dev after := by
  have shown : SaysPost t.parts.post t.parts.dev t.postText := ⟨t.post, t.dev, rfl, rfl, rfl⟩
  have dev : SaysDev t.parts.dev (written Labelled.text t.dev) := ⟨t.dev, rfl, rfl⟩
  unfold Spelling.preText readPre
  cases pre : t.pre with
  | none =>
    refine ⟨t.postText, ?_, shown⟩
    rw [written_none, List.nil_append, readSegment?_pre_eq_none t.isPostTail]
    simp [Spelling.parts, pre]
  | some l =>
    have begins := begins_of_isPostTail t.isPostTail
    obtain ⟨after, read, left⟩ := readSegment?_labelled areLabels_pre (by decide) l begins shown
      (noDigit_of_isPostTail t.isPostTail) fun ends => SaysPost.readLabelNumber (fun n post => greedy l n pre post ends) dev
    refine ⟨after, ?_, left⟩
    rw [written_some, read]
    simp [Spelling.parts, pre]

/-- A spelling in which a number after a hyphen belongs to the label before it is read as its parts. -/
theorem read?_text (t : Spelling) (greedy : t.IsGreedy) : read? t.text = some t.parts := by
  have begins := begins_of_isPreTail t.isPreTail
  have number : ∀ (n : Numeral) rest, ∃ d ∈ (n.digits ++ rest).head?, d.isDigit = true := by
    intro n rest
    obtain ⟨d, more, e⟩ := List.exists_cons_of_ne_nil n.isNumber.1
    exact ⟨d, by simp [e], n.isNumber.2 d (by simp [e])⟩
  have numbers : ∀ m ∈ t.minors.map Numeral.digits, IsNumber m := by
    intro m hm
    obtain ⟨n, -, rfl⟩ := List.mem_map.mp hm
    exact n.isNumber
  have before : readEpoch (dropV t.text) = (t.parts.epoch, t.releaseText ++ t.preText) := by
    unfold Spelling.text Spelling.releaseText
    cases epoch : t.epoch with
    | none =>
      rw [written_none, List.nil_append, List.append_assoc, dropV_spelled t.isMark (number t.major _),
        readEpoch_release t.major.isNumber begins]
      simp [Spelling.parts, epoch]
    | some n =>
      rw [written_some, List.append_assoc n.digits, List.singleton_append, dropV_spelled t.isMark (number n _),
        readEpoch_epoch _ n.isNumber]
      simp [Spelling.parts, epoch, Numeral.value]
  have release := readRelease?_append t.major.isNumber numbers (endsRelease_of_isPreTail t.isPreTail)
  obtain ⟨afterPre, pre, saysPost⟩ := readPre_text t greedy
  obtain ⟨afterPost, post, saysDev⟩ := saysPost.readPost
  unfold read?
  rw [before]
  unfold Spelling.releaseText
  simp only [List.append_assoc, release, Option.bind_some, pre, post, saysDev.readDev, List.isEmpty_nil, if_true]
  simp [Spelling.parts, Numeral.value, Function.comp_def]

/-- Every text in the grammar of public versions has parts. -/
theorem exists_read?_of_matches {s : List Char} (h : publicVersion.Matches s) : ∃ parts, read? s = some parts := by
  obtain ⟨t, rfl, greedy⟩ := exists_greedy ((matches_publicVersion_iff s).mp h)
  exact ⟨t.parts, read?_text t greedy⟩

end Parts

namespace Version

/-- The components that a version shows: those of a spelling of its text in which a number after a hyphen belongs to the label
before it. -/
def Shows (v : Version) (p : Parts) : Prop := ∃ t : Spelling, t.text = v.text.toList ∧ t.IsGreedy ∧ t.parts = p

/-- A version shows what is read from its text, and nothing else. -/
theorem shows_iff (v : Version) (p : Parts) : v.Shows p ↔ Parts.read? v.text.toList = some p := by
  constructor
  · rintro ⟨t, text, greedy, rfl⟩
    rw [← text]
    exact Parts.read?_text t greedy
  · intro read
    obtain ⟨t, text, greedy⟩ := exists_greedy ((matches_publicVersion_iff _).mp (Text.Pattern.accepts_iff.mp v.accepted))
    have same := Parts.read?_text t greedy
    rw [text, read] at same
    exact ⟨t, text, greedy, (Option.some.inj same).symm⟩

end Version

end ReleaseGate
