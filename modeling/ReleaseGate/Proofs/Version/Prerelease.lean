import ReleaseGate.Proofs.Version.NormalForm

/-!
# The labels by which pre-releases are known

`isPrerelease` does not read a version. It cuts the text at its digits and separators and looks for a known label among the pieces
(`Marked`). Two pre-releases escape it: one under the label `preview`, which is not among the known ones, and one whose label has
neither a separator nor a digit between it and the label of the next segment, so that both are one piece (`RunsOn`). A development
segment escapes it in the second way only. Nothing else does, and no version is taken for a pre-release or a development release
that is none. In a canonical version every label has a number after it, so there the answer is what the components say.
-/

namespace ReleaseGate.Version

open Parts Text

/-! ## Known labels in a text -/

/-- A known label, in any letter case, is one of the pieces of a text. -/
def Marked (s : List Char) : Prop := ∃ piece ∈ splitAtEach isLabelEnd (lowerAscii s), ∃ label ∈ prereleaseLabels, label.toList = piece

/-- Of two texts put together, the last character of the one and the first of the other are in one piece. -/
def RunsOn (a b : List Char) : Prop := (∃ c ∈ a.getLast?, isLabelEnd c = false) ∧ ∃ c ∈ b.head?, isLabelEnd c = false

@[simp] theorem isLabelEnd_toLower (c : Char) : isLabelEnd c.toLower = isLabelEnd c := by
  have separator : Parts.isSeparator c.toLower = Parts.isSeparator c := by
    have either : ∀ d : Char, d.isAlpha = false → (c.toLower == d) = (c == d) := by
      intro d other
      rw [Bool.eq_iff_iff, beq_iff_eq, beq_iff_eq, toLower_eq_iff other]
    simp only [Parts.isSeparator, either _ (show ('-' : Char).isAlpha = false from rfl),
      either _ (show ('_' : Char).isAlpha = false from rfl), either _ (show ('.' : Char).isAlpha = false from rfl)]
  rw [isLabelEnd, isDigit_toLower, separator, isLabelEnd]

theorem not_marked_nil : ¬Marked [] := by
  unfold Marked
  decide

/-- A text is cut at the end of a label. -/
theorem marked_append_end {c : Char} (ends : isLabelEnd c = true) (a b : List Char) :
    Marked (a ++ c :: b) ↔ Marked a ∨ Marked b := by
  have ends : isLabelEnd c.toLower = true := (isLabelEnd_toLower c).trans ends
  unfold Marked lowerAscii
  rw [List.map_append, List.map_cons, splitAtEach_append ends]
  simp only [List.mem_append, or_and_right, exists_or]

/-- What does not run on is cut where it is put together. -/
theorem marked_append {a b : List Char} (apart : ¬RunsOn a b) : Marked (a ++ b) ↔ Marked a ∨ Marked b := by
  rcases List.eq_nil_or_concat a with rfl | ⟨a, c, rfl⟩
  · rw [List.nil_append, or_iff_right not_marked_nil]
  rcases b with - | ⟨d, b⟩
  · rw [List.append_nil, or_iff_left not_marked_nil]
  by_cases last : isLabelEnd c = true
  · have whole : a.concat c ++ d :: b = a ++ c :: d :: b := by simp
    rw [whole, marked_append_end last, List.concat_eq_append, marked_append_end last, or_iff_left not_marked_nil]
  · have first : isLabelEnd d = true := by
      rw [← Bool.not_eq_false]
      intro other
      exact apart ⟨⟨c, by simp, by simpa using last⟩, d, rfl, other⟩
    have alone := marked_append_end first [] b
    rw [List.nil_append, or_iff_right not_marked_nil] at alone
    rw [marked_append_end first, alone]

/-- Digits and separators are no labels. -/
theorem not_marked_of_ends {s : List Char} (ends : ∀ c ∈ s, isLabelEnd c = true) : ¬Marked s := by
  induction s with
  | nil => exact not_marked_nil
  | cons c s ih =>
    obtain ⟨first, later⟩ := List.forall_mem_cons.mp ends
    have cut := marked_append_end first [] s
    rw [List.nil_append] at cut
    rw [cut, not_or]
    exact ⟨not_marked_nil, ih later⟩

/-! ## Stretches of letters -/

/-- A text with one piece in it, and digits and separators before and after. -/
structure Stretch where
  before : List Char
  letters : List Char
  after : List Char
  endsBefore : ∀ c ∈ before, isLabelEnd c = true
  isPiece : ∀ c ∈ letters, isLabelEnd c = false
  endsAfter : ∀ c ∈ after, isLabelEnd c = true

namespace Stretch

/-- The text of a stretch. -/
def text (r : Stretch) : List Char := r.before ++ (r.letters ++ r.after)

theorem marked_text_iff (r : Stretch) : Marked r.text ↔ ∃ label ∈ prereleaseLabels, label.toList = lowerAscii r.letters := by
  have front : ¬RunsOn r.before (r.letters ++ r.after) := by
    rintro ⟨⟨c, last, inside⟩, -⟩
    rw [r.endsBefore c (List.mem_of_getLast? last)] at inside
    cases inside
  have back : ¬RunsOn r.letters r.after := by
    rintro ⟨-, c, first, inside⟩
    rw [r.endsAfter c (List.mem_of_head? first)] at inside
    cases inside
  have piece : splitAtEach isLabelEnd (lowerAscii r.letters) = [lowerAscii r.letters] := by
    refine splitAtEach_eq_singleton fun c hc => ?_
    obtain ⟨d, hd, rfl⟩ := List.mem_map.mp hc
    rw [isLabelEnd_toLower, r.isPiece d hd]
  rw [text, marked_append front, marked_append back, or_iff_right (not_marked_of_ends r.endsBefore),
    or_iff_left (not_marked_of_ends r.endsAfter), Marked, piece]
  simp only [List.mem_singleton, exists_eq_left]

/-- Two stretches with nothing between their letters. -/
def join (r s : Stretch) : Stretch where
  before := r.before
  letters := r.letters ++ s.letters
  after := s.after
  endsBefore := r.endsBefore
  isPiece := List.forall_mem_append.mpr ⟨r.isPiece, s.isPiece⟩
  endsAfter := s.endsAfter

/-- Stretches run on where nothing stands between their letters. -/
theorem text_join {r s : Stretch} (runs : RunsOn r.text s.text) : r.text ++ s.text = (r.join s).text := by
  obtain ⟨⟨c, last, inside⟩, d, first, inside'⟩ := runs
  have noAfter : r.after = [] := by
    rcases List.eq_nil_or_concat r.after with none | ⟨front, e, whole⟩
    · exact none
    · obtain rfl : e = c := by simpa [text, whole] using last
      rw [r.endsAfter e (by simp [whole])] at inside
      cases inside
  have noBefore : s.before = [] := by
    cases whole : s.before with
    | nil => rfl
    | cons e more =>
      obtain rfl : e = d := by simpa [text, whole] using first
      rw [s.endsBefore e (by simp [whole])] at inside'
      cases inside'
  simp [text, join, noAfter, noBefore]

end Stretch

/-! ## What runs on -/

theorem not_runsOn_nil (a : List Char) : ¬RunsOn a [] := fun ⟨_, _, first, _⟩ => by cases first

theorem nil_not_runsOn (b : List Char) : ¬RunsOn [] b := fun ⟨⟨_, last, _⟩, _⟩ => by cases last

theorem runsOn_append_right {p : List Char} (some : p ≠ []) (a d : List Char) : RunsOn a (p ++ d) ↔ RunsOn a p := by
  obtain ⟨c, more, rfl⟩ := List.exists_cons_of_ne_nil some
  rfl

theorem runsOn_append_left {p : List Char} (some : p ≠ []) (a d : List Char) : RunsOn (a ++ p) d ↔ RunsOn p d := by
  rcases List.eq_nil_or_concat p with rfl | ⟨front, c, rfl⟩
  · exact absurd rfl some
  · simp [RunsOn]

/-- Three texts in a row, of which the second is not marked and none is marked by what runs on into it: a label counts where it is
first or last and does not run on. -/
theorem marked_three_iff {a p d : List Char} (unmarked : ¬Marked p) (ap : RunsOn a p → ¬Marked (a ++ p))
    (pd : RunsOn p d → ¬Marked (p ++ d)) (ad : RunsOn a d → ¬Marked (a ++ d))
    (apd : RunsOn a p → RunsOn p d → ¬Marked (a ++ (p ++ d))) :
    Marked (a ++ (p ++ d)) ↔ Marked a ∧ ¬RunsOn a (p ++ d) ∨ Marked d ∧ ¬RunsOn (a ++ p) d := by
  by_cases nothing : p = []
  · subst nothing
    rw [List.nil_append, List.append_nil]
    by_cases runs : RunsOn a d
    · simp only [ad runs, runs, not_true_eq_false, and_false, or_self]
    · simp only [marked_append runs, runs, not_false_eq_true, and_true]
  rw [runsOn_append_right nothing, runsOn_append_left nothing]
  by_cases front : RunsOn a p <;> by_cases back : RunsOn p d
  · simp only [apd front back, front, back, not_true_eq_false, and_false, or_self]
  · have cut : ¬RunsOn (a ++ p) d := mt (runsOn_append_left nothing a d).mp back
    rw [← List.append_assoc, marked_append cut]
    simp only [ap front, front, back, not_true_eq_false, not_false_eq_true, and_false, and_true]
  · have cut : ¬RunsOn a (p ++ d) := mt (runsOn_append_right nothing a d).mp front
    rw [marked_append cut]
    simp only [pd back, front, back, not_true_eq_false, not_false_eq_true, and_false, and_true]
  · have cut : ¬RunsOn a (p ++ d) := mt (runsOn_append_right nothing a d).mp front
    rw [marked_append cut, marked_append back]
    simp only [unmarked, front, back, not_false_eq_true, and_true, false_or]

/-! ## Words and known labels -/

theorem folded_toLower (c : Char) : folded c.toLower = folded c := by
  by_cases upper : 65 ≤ c.toNat ∧ c.toNat ≤ 90
  · have small := toNat_toLower c
    rw [if_pos upper] at small
    have long : c ≠ 'ſ' := by
      rintro rfl
      exact absurd upper (by decide)
    have kelvin : c.toNat ≠ 0x212a := by omega
    rw [folded_eq_self (by omega) (by omega), folded, if_neg long, if_neg kelvin]
  · rw [toLower_eq_self upper]

/-- A spelling that is a word in lower case, but for the case of ASCII letters, is a spelling of that word. -/
theorem eq_of_spells {word name label : List Char} (spelled : Spells word name) (lower : IsLowerCase label)
    (same : label = lowerAscii name) : label = word := by
  have again : label.map folded = word := by
    rw [same, lowerAscii, List.map_map, ← spelled]
    exact List.map_congr_left fun c _ => folded_toLower c
  rw [← again, spells_self lower]

/-- Only the letters s and k have spellings outside ASCII. -/
theorem lowerAscii_of_spells {word name : List Char} (spelled : Spells word name) (s : 's' ∉ word) (k : 'k' ∉ word) :
    lowerAscii name = word := by
  rw [← spelled]
  refine List.map_congr_left fun c hc => ?_
  have letter : folded c ∈ word := spelled ▸ List.mem_map_of_mem hc
  unfold folded at letter ⊢
  grind

theorem Spells.append {word word' name name' : List Char} (h : Spells word name) (h' : Spells word' name') :
    Spells (word ++ word') (name ++ name') := by
  unfold Spells at h h' ⊢
  rw [List.map_append, h, h']

namespace Stretch

/-- A stretch of letters that spell no known label is not marked. -/
theorem not_marked {r : Stretch} {word : List Char} (spelled : Spells word r.letters)
    (unknown : ∀ label ∈ prereleaseLabels, label.toList ≠ word) : ¬Marked r.text := by
  have lower : ∀ label ∈ prereleaseLabels, IsLowerCase label.toList := by decide
  rw [marked_text_iff]
  rintro ⟨label, known, same⟩
  exact unknown label known (eq_of_spells spelled (lower label known) same)

theorem marked_iff_of_spells {r : Stretch} {word : List Char} (spelled : Spells word r.letters) (s : 's' ∉ word) (k : 'k' ∉ word) :
    Marked r.text ↔ ∃ label ∈ prereleaseLabels, label.toList = word := by
  rw [marked_text_iff, lowerAscii_of_spells spelled s k]

/-- Two words that run on are not marked, unless they are a known label together. -/
theorem not_marked_join {r s : Stretch} {word word' : List Char} (spelled : Spells word r.letters) (spelled' : Spells word' s.letters)
    (unknown : ∀ label ∈ prereleaseLabels, label.toList ≠ word ++ word') (runs : RunsOn r.text s.text) :
    ¬Marked (r.text ++ s.text) := by
  rw [text_join runs]
  exact not_marked (r := r.join s) (spelled.append spelled') unknown

end Stretch

/-! ## The segments of a spelling -/

theorem isLabelEnd_of_isDigits {s : List Char} (h : IsDigits s) : ∀ c ∈ s, isLabelEnd c = true := by
  intro c hc
  rw [isLabelEnd, h c hc, Bool.true_or]

theorem isLabelEnd_of_isGap {s : List Char} (h : IsGap s) : ∀ c ∈ s, isLabelEnd c = true := by
  rcases h with rfl | ⟨c, separator, rfl⟩
  · exact nofun
  · simp [isLabelEnd, separator]

theorem isLabelEnd_of_spells {word name : List Char} (lower : IsLowerCase word) (spelled : Spells word name) :
    ∀ c ∈ name, isLabelEnd c = false := by
  intro c hc
  have letter : (folded c).isLower = true := lower _ (spelled ▸ List.mem_map_of_mem hc)
  rw [isLabelEnd, isDigit_eq_false letter, isSeparator_eq_false letter, Bool.or_self]

/-- A segment is a stretch with its label as the letters. -/
def Labelled.stretch {α : Type} {table : List (String × α)} {first : List Char} (words : AreLabels first (labelsOf table))
    (l : Labelled table) : Stretch where
  before := l.before
  letters := l.name
  after := l.after ++ l.digits
  endsBefore := isLabelEnd_of_isGap l.gapBefore
  isPiece := isLabelEnd_of_spells (words _ (List.mem_map_of_mem l.known)).1 l.spelled
  endsAfter := List.forall_mem_append.mpr ⟨isLabelEnd_of_isGap l.gapAfter, isLabelEnd_of_isDigits l.isDigits⟩

namespace Labelled

theorem marked_pre_iff (l : Labelled preLabels) : Marked l.text ↔ l.entry.1 ≠ "preview" := by
  have plain : ∀ e ∈ preLabels, 's' ∉ e.1.toList ∧ 'k' ∉ e.1.toList := by decide
  have known : ∀ e ∈ preLabels, (∃ label ∈ prereleaseLabels, label.toList = e.1.toList) ↔ e.1 ≠ "preview" := by decide
  obtain ⟨s, k⟩ := plain _ l.known
  rw [← known _ l.known]
  exact Stretch.marked_iff_of_spells (r := l.stretch areLabels_pre) l.spelled s k

theorem marked_dev (l : Labelled devLabels) : Marked l.text := by
  have plain : ∀ e ∈ devLabels, 's' ∉ e.1.toList ∧ 'k' ∉ e.1.toList := by decide
  have known : ∀ e ∈ devLabels, ∃ label ∈ prereleaseLabels, label.toList = e.1.toList := by decide
  obtain ⟨s, k⟩ := plain _ l.known
  exact (Stretch.marked_iff_of_spells (r := l.stretch areLabels_dev) l.spelled s k).mpr (known _ l.known)

theorem not_marked_post (l : Labelled postLabels) : ¬Marked l.text := by
  have unknown : ∀ e ∈ postLabels, ∀ label ∈ prereleaseLabels, label.toList ≠ e.1.toList := by decide
  exact Stretch.not_marked (r := l.stretch areLabels_post) l.spelled (unknown _ l.known)

/-- Segments of two tables whose labels run on are not marked, when no label of the one with one of the other is a known label. -/
theorem not_marked_join {α β : Type} {table : List (String × α)} {table' : List (String × β)} {first first' : List Char}
    (words : AreLabels first (labelsOf table)) (words' : AreLabels first' (labelsOf table'))
    (unknown : ∀ e ∈ table, ∀ f ∈ table', ∀ label ∈ prereleaseLabels, label.toList ≠ e.1.toList ++ f.1.toList)
    (l : Labelled table) (m : Labelled table') (runs : RunsOn l.text m.text) : ¬Marked (l.text ++ m.text) :=
  Stretch.not_marked_join (r := l.stretch words) (s := m.stretch words') l.spelled m.spelled (unknown _ l.known _ m.known) runs

/-- Three segments in a row whose labels run on are not marked. -/
theorem not_marked_join_three (a : Labelled preLabels) (p : Labelled postLabels) (d : Labelled devLabels)
    (runs : RunsOn a.text p.text) (runs' : RunsOn p.text d.text) : ¬Marked (a.text ++ (p.text ++ d.text)) := by
  have unknown : ∀ e ∈ preLabels, ∀ f ∈ postLabels, ∀ g ∈ devLabels, ∀ label ∈ prereleaseLabels,
      label.toList ≠ e.1.toList ++ f.1.toList ++ g.1.toList := by decide
  let front := (a.stretch areLabels_pre).join (p.stretch areLabels_post)
  have joined : a.text ++ p.text = front.text := Stretch.text_join (r := a.stretch areLabels_pre) (s := p.stretch areLabels_post) runs
  have some : p.text ≠ [] := fun nothing => not_runsOn_nil _ (nothing ▸ runs)
  have goesOn : RunsOn front.text d.text := by
    rw [← joined]
    exact (runsOn_append_left some _ _).mpr runs'
  rw [← List.append_assoc, joined]
  exact Stretch.not_marked_join (r := front) (s := d.stretch areLabels_dev) (a.spelled.append p.spelled) d.spelled
    (unknown _ a.known _ p.known _ d.known) goesOn

end Labelled

/-- What runs on is there. -/
theorem exists_of_runsOn {α : Type} {text : α → List Char} {piece : Option α} {b : List Char} (runs : RunsOn (written text piece) b) :
    ∃ a, piece = some a := by
  cases piece with
  | none => exact absurd runs (nil_not_runsOn b)
  | some a => exact ⟨a, rfl⟩

/-- That into which something runs on is there. -/
theorem exists_of_runsOn' {α : Type} {text : α → List Char} {a : List Char} {piece : Option α} (runs : RunsOn a (written text piece)) :
    ∃ b, piece = some b := by
  cases piece with
  | none => exact absurd runs (not_runsOn_nil a)
  | some b => exact ⟨b, rfl⟩

namespace PostRelease

/-- A number after a hyphen begins and ends with an end of labels, so a post-release that runs on has a label. -/
theorem exists_labelled_of_runsOn {post : Option PostRelease} {d : List Char} (runs : RunsOn (written text post) d) :
    ∃ l, post = some (.labelled l) := by
  obtain ⟨p, rfl⟩ := exists_of_runsOn runs
  cases p with
  | labelled l => exact ⟨l, rfl⟩
  | bare n =>
    obtain ⟨⟨c, last, inside⟩, -⟩ := runs
    have ends : ∀ c ∈ '-' :: n.digits, isLabelEnd c = true :=
      List.forall_mem_cons.mpr ⟨rfl, isLabelEnd_of_isDigits n.isNumber.2⟩
    rw [ends c (List.mem_of_getLast? last)] at inside
    cases inside

theorem exists_labelled_of_runsOn' {a : List Char} {post : Option PostRelease} (runs : RunsOn a (written text post)) :
    ∃ l, post = some (.labelled l) := by
  obtain ⟨p, rfl⟩ := exists_of_runsOn' runs
  cases p with
  | labelled l => exact ⟨l, rfl⟩
  | bare n =>
    obtain ⟨-, c, ⟨⟩, inside⟩ := runs
    cases inside

theorem not_marked (post : Option PostRelease) : ¬Marked (written text post) := by
  match post with
  | none => exact not_marked_nil
  | some (.labelled l) => exact l.not_marked_post
  | some (.bare n) =>
    exact not_marked_of_ends (List.forall_mem_cons.mpr ⟨rfl, isLabelEnd_of_isDigits n.isNumber.2⟩)

end PostRelease

namespace Spelling

/-- The labels that count among those after a release: that of a pre-release, unless it is `preview`, and that of a development
segment, unless they run on. -/
theorem marked_preText_iff (t : Spelling) :
    Marked t.preText ↔
      (∃ l, t.pre = some l ∧ l.entry.1 ≠ "preview" ∧ ¬RunsOn l.text t.postText) ∨
        ∃ l, t.dev = some l ∧ ¬RunsOn (written Labelled.text t.pre ++ written PostRelease.text t.post) l.text := by
  have three : Marked t.preText ↔ _ := marked_three_iff (PostRelease.not_marked t.post)
    (a := written Labelled.text t.pre) (d := written Labelled.text t.dev) ?_ ?_ ?_ ?_
  · rw [three]
    refine or_congr ?_ ?_
    · cases pre : t.pre with
      | none => simp [not_marked_nil]
      | some l => simp [l.marked_pre_iff, postText]
    · cases dev : t.dev with
      | none => simp [not_marked_nil]
      | some l => simp [l.marked_dev]
  · intro runs
    obtain ⟨a, pre⟩ := exists_of_runsOn runs
    obtain ⟨p, post⟩ := PostRelease.exists_labelled_of_runsOn' runs
    rw [pre, post] at runs ⊢
    exact a.not_marked_join areLabels_pre areLabels_post (by decide) p runs
  · intro runs
    obtain ⟨p, post⟩ := PostRelease.exists_labelled_of_runsOn runs
    obtain ⟨d, dev⟩ := exists_of_runsOn' runs
    rw [post, dev] at runs ⊢
    exact p.not_marked_join areLabels_post areLabels_dev (by decide) d runs
  · intro runs
    obtain ⟨a, pre⟩ := exists_of_runsOn runs
    obtain ⟨d, dev⟩ := exists_of_runsOn' runs
    rw [pre, dev] at runs ⊢
    exact a.not_marked_join areLabels_pre areLabels_dev (by decide) d runs
  · intro runs runs'
    obtain ⟨a, pre⟩ := exists_of_runsOn runs
    obtain ⟨p, post⟩ := PostRelease.exists_labelled_of_runsOn runs'
    obtain ⟨d, dev⟩ := exists_of_runsOn' runs'
    rw [pre, post] at runs
    rw [post, dev] at runs'
    rw [pre, post, dev]
    exact a.not_marked_join_three p d runs runs'

/-! ## What precedes the release -/

/-- The epoch and the release, as a stretch: the mark of the epoch is the only character in a piece. -/
def front (t : Spelling) : Stretch where
  before := (t.epoch.map Numeral.digits).getD []
  letters := if t.epoch.isSome then ['!'] else []
  after := t.releaseText
  endsBefore := by
    cases t.epoch with
    | none => exact nofun
    | some n => exact isLabelEnd_of_isDigits n.isNumber.2
  isPiece := by
    split
    · exact fun c hc => List.mem_singleton.mp hc ▸ rfl
    · exact nofun
  endsAfter := by
    refine List.forall_mem_append.mpr ⟨isLabelEnd_of_isDigits t.major.isNumber.2, fun c hc => ?_⟩
    obtain ⟨digits, minor, dotted⟩ := List.mem_flatMap.mp hc
    obtain ⟨n, -, rfl⟩ := List.mem_map.mp minor
    rcases List.mem_cons.mp dotted with rfl | digit
    · rfl
    · exact isLabelEnd_of_isDigits n.isNumber.2 c digit

theorem text_front (t : Spelling) : t.front.text = written (fun n => n.digits ++ ['!']) t.epoch ++ t.releaseText := by
  have pieces : t.front.text = (t.epoch.map Numeral.digits).getD [] ++ ((if t.epoch.isSome then ['!'] else []) ++ t.releaseText) :=
    rfl
  rw [pieces]
  cases t.epoch <;> simp

theorem text_eq (t : Spelling) : t.text = t.mark ++ (t.front.text ++ t.preText) := by
  rw [text_front, text, List.append_assoc]

theorem not_marked_front (t : Spelling) : ¬Marked t.front.text := by
  have unknown : ∀ letters ∈ [['!'], []], ∀ label ∈ prereleaseLabels, label.toList ≠ lowerAscii letters := by decide
  rw [Stretch.marked_text_iff]
  rintro ⟨label, known, same⟩
  refine unknown t.front.letters ?_ label known same
  unfold front
  split <;> simp

/-- A release ends in a digit, on which nothing runs. -/
theorem front_not_runsOn (t : Spelling) (b : List Char) : ¬RunsOn t.front.text b := by
  have some : t.front.after ≠ [] := List.append_ne_nil_of_left_ne_nil t.major.isNumber.1 _
  have whole : t.front.text = (t.front.before ++ t.front.letters) ++ t.front.after := (List.append_assoc _ _ _).symm
  rw [whole, runsOn_append_left some]
  rintro ⟨⟨c, last, inside⟩, -⟩
  rw [t.front.endsAfter c (List.mem_of_getLast? last)] at inside
  cases inside

/-- The first character after the mark of a spelling is a digit. -/
theorem digit_front (t : Spelling) : ∃ d more, d.isDigit = true ∧ t.front.text = d :: more := by
  have first : ∀ (n : Numeral) rest, ∃ d more, d.isDigit = true ∧ n.digits ++ rest = d :: more := by
    intro n rest
    obtain ⟨d, more, digits⟩ := List.exists_cons_of_ne_nil n.isNumber.1
    exact ⟨d, more ++ rest, n.isNumber.2 d (by simp [digits]), by simp [digits]⟩
  rw [text_front]
  cases t.epoch with
  | none => exact first t.major _
  | some n =>
    rw [written_some, List.append_assoc]
    exact first n _

end Spelling

/-- The letter before a version is dropped, and nothing else. -/
theorem dropWhile_mark {mark rest : List Char} (isMark : mark = [] ∨ Spells ['v'] mark)
    (digit : ∃ d more, d.isDigit = true ∧ rest = d :: more) :
    (lowerAscii (mark ++ rest)).dropWhile (· == 'v') = lowerAscii rest := by
  obtain ⟨d, more, digit, rfl⟩ := digit
  have other : (d.toLower == 'v') = false := by
    have bounds := (isDigit_iff d).mp digit
    rw [toLower_eq_self (by omega), beq_eq_false_iff_ne]
    rintro rfl
    exact absurd bounds (by decide)
  have stops : (lowerAscii (d :: more)).dropWhile (· == 'v') = lowerAscii (d :: more) := by
    simp [lowerAscii, other]
  rcases isMark with rfl | spelled
  · exact stops
  · have small : lowerAscii mark = ['v'] := lowerAscii_of_spells spelled (by decide) (by decide)
    rw [lowerAscii, List.map_append, ← lowerAscii, ← lowerAscii, small]
    exact stops

/-- Whether a version is taken for a pre-release, by any reading of it. -/
theorem isPrerelease_iff (v : Version) {t : Spelling} (spells : t.text = v.text.toList) :
    v.isPrerelease = true ↔
      (∃ l, t.pre = some l ∧ l.entry.1 ≠ "preview" ∧ ¬RunsOn l.text t.postText) ∨
        ∃ l, t.dev = some l ∧ ¬RunsOn (written Labelled.text t.pre ++ written PostRelease.text t.post) l.text := by
  have digit : ∃ d more, d.isDigit = true ∧ t.front.text ++ t.preText = d :: more := by
    obtain ⟨d, more, digit, text⟩ := t.digit_front
    exact ⟨d, more ++ t.preText, digit, by rw [text, List.cons_append]⟩
  have pieces : v.isPrerelease = true ↔ Marked (t.front.text ++ t.preText) := by
    rw [isPrerelease, ← spells, t.text_eq, dropWhile_mark t.isMark digit]
    simp only [List.any_eq_true, beq_iff_eq, Marked]
  rw [pieces, marked_append (t.front_not_runsOn _), or_iff_right t.not_marked_front, t.marked_preText_iff]

/-- What is taken for a pre-release shows a pre-release or a development release. -/
theorem shows_of_isPrerelease {v : Version} {p : Parts} (shown : v.Shows p) (taken : v.isPrerelease = true) :
    p.pre.isSome = true ∨ p.dev.isSome = true := by
  obtain ⟨t, spells, -, rfl⟩ := shown
  rcases (isPrerelease_iff v spells).mp taken with ⟨l, pre, -⟩ | ⟨l, dev, -⟩
  · simp [Spelling.parts, pre]
  · simp [Spelling.parts, dev]

/-- Nothing runs on from a segment with a number. -/
theorem Labelled.not_runsOn_of_digits {α : Type} {table : List (String × α)} {l : Labelled table} (numbered : l.digits ≠ [])
    (b : List Char) : ¬RunsOn l.text b := by
  have whole : l.text = (l.before ++ (l.name ++ l.after)) ++ l.digits := by simp [text]
  rw [whole, runsOn_append_left numbered]
  rintro ⟨⟨c, last, inside⟩, -⟩
  rw [isLabelEnd_of_isDigits l.isDigits c (List.mem_of_getLast? last)] at inside
  cases inside

/-- Nothing runs on into a segment with a separator before its label. -/
theorem Labelled.not_runsOn_of_before {α : Type} {table : List (String × α)} {l : Labelled table} (separated : l.before ≠ [])
    (a : List Char) : ¬RunsOn a l.text := by
  rw [text, runsOn_append_right separated]
  rintro ⟨-, c, first, inside⟩
  rw [isLabelEnd_of_isGap l.gapBefore c (List.mem_of_head? first)] at inside
  cases inside

/-- Where the label of the pre-release is a known one with a number and the development segment has a separator before its label,
the answer is whether one of them is there. -/
theorem isPrerelease_iff_of_plain (v : Version) {t : Spelling} (spells : t.text = v.text.toList)
    (numbered : ∀ l, t.pre = some l → l.entry.1 ≠ "preview" ∧ l.digits ≠ []) (separated : ∀ l, t.dev = some l → l.before ≠ []) :
    v.isPrerelease = true ↔ t.pre.isSome = true ∨ t.dev.isSome = true := by
  rw [isPrerelease_iff v spells, Option.isSome_iff_exists, Option.isSome_iff_exists]
  refine or_congr (exists_congr fun l => and_iff_left_of_imp fun pre => ?_) (exists_congr fun l => and_iff_left_of_imp fun dev => ?_)
  · obtain ⟨known, digits⟩ := numbered l pre
    exact ⟨known, Labelled.not_runsOn_of_digits digits _⟩
  · exact Labelled.not_runsOn_of_before (separated l dev) _

/-- A canonical version is taken for a pre-release just when it shows a pre-release or a development release. -/
theorem isPrerelease_of_text_eq_print {u : Version} {p : Parts} (printed : u.text.toList = p.print) :
    u.isPrerelease = true ↔ p.pre.isSome = true ∨ p.dev.isSome = true := by
  have spells : (Spelling.printed p).text = u.text.toList := by rw [Spelling.text_printed, printed]
  have known : ∀ cls, (preEntry cls).1 ≠ "preview" := by
    intro cls
    cases cls <;> decide
  have pieces := isPrerelease_iff_of_plain u spells ?_ ?_
  · simpa [Spelling.printed] using pieces
  · intro l pre
    obtain ⟨⟨cls, n⟩, -, rfl⟩ := Option.map_eq_some_iff.mp pre
    exact ⟨known cls, (isNumber_decimal n).1⟩
  · intro l dev
    obtain ⟨n, -, rfl⟩ := Option.map_eq_some_iff.mp dev
    exact List.cons_ne_nil _ _

/-- A version is taken for a pre-release just when a label counts in a reading of it: that of its pre-release, unless it is `preview`
or runs on into what follows, or that of its development segment, unless what precedes runs on into it. So none is taken that shows
neither; and the canonical form of a version is taken just when the version shows one of them. -/
theorem isPrerelease_by_labels (v : Version) {t : Spelling} (spells : t.text = v.text.toList) {p : Parts} (shown : v.Shows p) :
    (v.isPrerelease = true ↔
      (∃ l, t.pre = some l ∧ l.entry.1 ≠ "preview" ∧ ¬RunsOn l.text t.postText) ∨
        ∃ l, t.dev = some l ∧ ¬RunsOn (written Labelled.text t.pre ++ written PostRelease.text t.post) l.text) ∧
      (v.isPrerelease = true → p.pre.isSome = true ∨ p.dev.isSome = true) ∧
      ∃ u, parse v.canonical = .ok u ∧ (u.isPrerelease = true ↔ p.pre.isSome = true ∨ p.dev.isSome = true) := by
  refine ⟨isPrerelease_iff v spells, shows_of_isPrerelease shown, ?_⟩
  obtain ⟨q, only, printed⟩ := v.exists_shows
  obtain rfl := (only p).mp shown
  obtain ⟨u, parsed, text, -⟩ := (matches_normalVersion_iff_parse v.canonical).mp ((matches_normalVersion_iff _).mpr ⟨p, printed.symm⟩)
  exact ⟨u, parsed, isPrerelease_of_text_eq_print (by rw [text, printed])⟩

/-- The candidate `1.0rc.dev2`, whose label has no number and does not run on. -/
def unnumbered : Spelling :=
  { Spelling.printed { major := 1, minors := [0], dev := some 2 } with
    pre := some { printedPre (.candidate, 0) with digits := [], isDigits := List.forall_mem_nil _ } }

theorem isPrerelease_by_labels_unnumbered :
    ∃ v : Version, v.text = "1.0rc.dev2" ∧ unnumbered.text = v.text.toList ∧ v.Shows unnumbered.parts ∧ v.isPrerelease = true := by
  let v : Version := ⟨"1.0rc.dev2", by decide +kernel⟩
  have spells : unnumbered.text = v.text.toList := by decide
  have shown : v.Shows unnumbered.parts := ⟨unnumbered, spells, nofun, rfl⟩
  have counts := (isPrerelease_by_labels v spells shown).1.mpr
    (.inr ⟨printedDev 2, rfl, Labelled.not_runsOn_of_before (List.cons_ne_nil _ _) _⟩)
  exact ⟨v, rfl, spells, shown, counts⟩

/-- Two spellings of one release candidate, of which one is taken for a pre-release and the other is not. -/
theorem not_isPrerelease_preview :
    ∃ v w, parse "1.0preview1" = .ok v ∧ parse "1.0rc1" = .ok w ∧ v.canonical = "1.0rc1" ∧ w.canonical = "1.0rc1" ∧
      (∃ p, v.Shows p ∧ p.pre = some (.candidate, 1)) ∧ v.isPrerelease = false ∧ w.isPrerelease = true := by
  let v : Version := ⟨"1.0preview1", by decide +kernel⟩
  let w : Version := ⟨"1.0rc1", by decide +kernel⟩
  have shown : v.Shows { major := 1, minors := [0], pre := some (.candidate, 1) } := (shows_iff v _).mpr (by decide +kernel)
  exact ⟨v, w, parse_text v, parse_text w, by decide +kernel, by decide +kernel, ⟨_, shown, rfl⟩, by decide +kernel,
    by decide +kernel⟩

end ReleaseGate.Version
