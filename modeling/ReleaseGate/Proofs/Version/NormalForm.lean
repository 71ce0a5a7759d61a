import ReleaseGate.Proofs.Text.Decimal
import ReleaseGate.Proofs.Version.Canonical

/-!
# Canonical versions are normal forms

The canonical versions have a grammar of their own, `normalVersion`: it is that of public versions with one spelling for each label,
no separators but the dots, no number left out and no leading zeros. Its texts are just what is printed for some components
(`matches_normalVersion_iff`), and what is printed is read as the components again (`read?_print`). So a version and its canonical
form show the same components, and two versions have one canonical form just when they show the same ones.
-/

namespace ReleaseGate

open Text

namespace Version

open Parts

/-! ## The spelling that is printed -/

@[simp] theorem numberOf_decimal (n : Nat) : numberOf (decimal n) = n := Decimal.valueFrom_toDigits n

theorem isNumber_decimal (n : Nat) : IsNumber (decimal n) :=
  ⟨Nat.toDigits_ne_nil, fun _ => isDigit_of_mem_decimal⟩

/-- A word in lower case is a spelling of itself. -/
theorem spells_self {word : List Char} (lower : IsLowerCase word) : Spells word word := by
  refine (List.map_congr_left fun l hl => ?_).trans (List.map_id word)
  have bounds := (isLower_iff l).mp (lower l hl)
  exact folded_eq_self (by omega) (by omega)

/-- A number without leading zeros. -/
def Numeral.ofNat (n : Nat) : Numeral := ⟨decimal n, isNumber_decimal n⟩

@[simp] theorem Numeral.digits_ofNat (n : Nat) : (Numeral.ofNat n).digits = decimal n := rfl

@[simp] theorem Numeral.value_ofNat (n : Nat) : (Numeral.ofNat n).value = n := numberOf_decimal n

/-- The entry of the canonical label of a pre-release. -/
def preEntry : PreClass → String × PreClass
  | .alpha => ("a", .alpha)
  | .beta => ("b", .beta)
  | .candidate => ("rc", .candidate)

/-- A pre-release as it is printed. -/
def printedPre (pre : PreClass × Nat) : Labelled preLabels where
  entry := preEntry pre.1
  before := []
  name := preLabel pre.1
  after := []
  digits := decimal pre.2
  known := by cases pre.1 <;> decide
  gapBefore := isGap_nil
  spelled := by cases pre.1 <;> exact spells_self (by decide)
  gapAfter := isGap_nil
  isDigits := (isNumber_decimal pre.2).2

/-- A post-release as it is printed. -/
def printedPost (n : Nat) : Labelled postLabels where
  entry := ("post", ())
  before := ['.']
  name := ['p', 'o', 's', 't']
  after := []
  digits := decimal n
  known := by decide
  gapBefore := isGap_singleton rfl
  spelled := spells_self (by decide)
  gapAfter := isGap_nil
  isDigits := (isNumber_decimal n).2

/-- A development release as it is printed. -/
def printedDev (n : Nat) : Labelled devLabels where
  entry := ("dev", ())
  before := ['.']
  name := ['d', 'e', 'v']
  after := []
  digits := decimal n
  known := by decide
  gapBefore := isGap_singleton rfl
  spelled := spells_self (by decide)
  gapAfter := isGap_nil
  isDigits := (isNumber_decimal n).2

/-- The epoch that is printed: epoch 0 is not. -/
def printedEpoch (epoch : Nat) : Option Nat := if epoch = 0 then none else some epoch

@[simp] theorem getD_printedEpoch (epoch : Nat) : (printedEpoch epoch).getD 0 = epoch := by
  unfold printedEpoch
  by_cases zero : epoch = 0 <;> simp [zero]

/-- What is printed, by its pieces. -/
theorem print_eq (p : Parts) :
    p.print = written (fun n => decimal n ++ ['!']) (printedEpoch p.epoch) ++ (decimal p.major ++
      (p.minors.flatMap printMinor ++ (written (fun pre => preLabel pre.1 ++ decimal pre.2) p.pre ++
        (written (['.', 'p', 'o', 's', 't'] ++ decimal ·) p.post ++ written (['.', 'd', 'e', 'v'] ++ decimal ·) p.dev)))) := by
  obtain ⟨epoch, major, minors, pre, post, dev⟩ := p
  have first : (if epoch == 0 then [] else decimal epoch ++ ['!']) =
      written (fun n => decimal n ++ ['!']) (printedEpoch epoch) := by
    unfold printedEpoch
    by_cases zero : epoch = 0 <;> simp [zero]
  unfold Parts.print
  simp only [List.append_assoc]
  rw [first]
  cases pre <;> cases post <;> cases dev <;> rfl

/-- The spelling that is printed for some components. -/
def Spelling.printed (p : Parts) : Spelling where
  mark := []
  isMark := .inl rfl
  epoch := (printedEpoch p.epoch).map .ofNat
  major := .ofNat p.major
  minors := p.minors.map .ofNat
  pre := p.pre.map printedPre
  post := p.post.map fun n => .labelled (printedPost n)
  dev := p.dev.map printedDev

theorem written_map {α β : Type} (text : β → List Char) (f : α → β) (o : Option α) :
    written text (o.map f) = written (text ∘ f) o := by
  cases o <;> rfl

theorem Spelling.text_printed (p : Parts) : (Spelling.printed p).text = p.print := by
  have dotted : ((p.minors.map Numeral.ofNat).map Numeral.digits).flatMap ('.' :: ·) = p.minors.flatMap printMinor := by
    rw [List.map_map, List.flatMap_map]
    rfl
  unfold Spelling.text Spelling.releaseText Spelling.preText Spelling.postText Spelling.printed
  rw [dotted, print_eq]
  simp only [written_map, List.nil_append, List.append_assoc]
  rfl

theorem Spelling.parts_printed (p : Parts) : (Spelling.printed p).parts = p := by
  have entry : ∀ pre : PreClass × Nat, ((printedPre pre).entry.2, (printedPre pre).value) = pre := by
    rintro ⟨cls, n⟩
    have value : (printedPre (cls, n)).value = n := numberOf_decimal n
    rw [value]
    cases cls <;> rfl
  have post_value : ∀ n, (PostRelease.labelled (printedPost n)).value = n := numberOf_decimal
  have dev_value : ∀ n, (printedDev n).value = n := numberOf_decimal
  unfold Spelling.parts Spelling.printed
  simp [entry, post_value, dev_value, Function.comp_def]

theorem Spelling.isGreedy_printed (p : Parts) : (Spelling.printed p).IsGreedy := by
  intro l n _ post
  obtain ⟨k, -, labelled⟩ := Option.map_eq_some_iff.mp post
  cases labelled

end Version

namespace Parts

/-- What is printed for some components is read as these components. -/
theorem read?_print (p : Parts) : read? p.print = some p := by
  have read := read?_text (.printed p) (Version.Spelling.isGreedy_printed p)
  rwa [Version.Spelling.text_printed, Version.Spelling.parts_printed] at read

theorem matches_print (p : Parts) : Version.publicVersion.Matches p.print :=
  (Version.matches_publicVersion_iff _).mpr ((Version.isSpelling_iff _).mpr ⟨.printed p, Version.Spelling.text_printed p⟩)

end Parts

namespace Version

open Parts Pattern

/-! ## The grammar of canonical versions -/

/-- A word, letter by letter. -/
def literal (w : String) : Pattern := sequence (w.toList.map char)

/-- A number above zero, without leading zeros. -/
def positive : Pattern := seq (range '1' '9') (many digit)

/-- A number without leading zeros. -/
def number : Pattern := alt (char '0') positive

/-- The spellings of canonical versions. -/
def normalVersion : Pattern :=
  sequence
    [optional (seq positive (char '!')),
     number,
     many (seq (char '.') number),
     optional (seq (choice [literal "a", literal "b", literal "rc"]) number),
     optional (seq (literal ".post") number),
     optional (seq (literal ".dev") number)]

theorem matches_literal_iff (w : String) (s : List Char) : (literal w).Matches s ↔ s = w.toList := by
  unfold literal
  generalize w.toList = letters
  induction letters generalizing s with
  | nil => exact matches_nothing_iff
  | cons l rest ih =>
    cases rest with
    | nil => simp [char, matches_one_iff]
    | cons m rest =>
      simp only [List.map_cons, matches_sequence_cons_iff] at ih ⊢
      constructor
      · rintro ⟨t, u, ht, hu, rfl⟩
        obtain ⟨c, hc, rfl⟩ := matches_one_iff.mp ht
        rw [(ih u).mp hu, beq_iff_eq.mp hc, List.singleton_append]
      · rintro rfl
        exact ⟨[l], m :: rest, matches_one_iff.mpr ⟨l, beq_self_eq_true l, rfl⟩, (ih _).mpr rfl, rfl⟩

theorem matches_positive_iff (s : List Char) : positive.Matches s ↔ ∃ n, 0 < n ∧ decimal n = s := by
  have first : ∀ c : Char, ('1' ≤ c && c ≤ '9') = true ↔ c.isDigit = true ∧ c ≠ '0' := by
    intro c
    have zero : c ≠ '0' ↔ c.toNat ≠ 48 := not_congr Char.toNat_inj.symm
    have low : '1' ≤ c ↔ 49 ≤ c.toNat := Iff.rfl
    have high : c ≤ '9' ↔ c.toNat ≤ 57 := Iff.rfl
    rw [Bool.and_eq_true, decide_eq_true_iff, decide_eq_true_iff, isDigit_iff, zero, low, high]
    omega
  simp only [positive, matches_seq_iff, range, matches_one_iff, first, matches_many_digit_iff]
  constructor
  · rintro ⟨_, rest, ⟨c, ⟨digit, leading⟩, rfl⟩, digits, rfl⟩
    obtain ⟨same, above⟩ := Decimal.toDigits_valueFrom rest (List.forall_mem_cons.mpr ⟨digit, digits⟩) leading
    exact ⟨_, above, same⟩
  · rintro ⟨n, above, rfl⟩
    obtain ⟨c, rest, front, digit⟩ := Decimal.exists_toDigits_eq_cons n
    have leading : c ≠ '0' := by
      rintro rfl
      exact Decimal.toDigits_ne_zero_cons above rest front
    have digits : IsDigits rest := fun d hd => isDigit_of_mem_decimal (n := n) (by simp [decimal, front, hd])
    exact ⟨[c], rest, ⟨c, ⟨digit, leading⟩, rfl⟩, digits, front⟩

theorem matches_number_iff (s : List Char) : number.Matches s ↔ ∃ n, decimal n = s := by
  have zero : decimal 0 = ['0'] := rfl
  rw [number, matches_alt_iff, matches_positive_iff, char, matches_one_iff]
  constructor
  · rintro (⟨c, same, rfl⟩ | ⟨n, -, rfl⟩)
    · exact ⟨0, by rw [zero, beq_iff_eq.mp same]⟩
    · exact ⟨n, rfl⟩
  · rintro ⟨n, rfl⟩
    rcases Nat.eq_zero_or_pos n with rfl | above
    · exact .inl ⟨'0', rfl, zero⟩
    · exact .inr ⟨n, above, rfl⟩

/-- A word and a number after it. -/
theorem matches_literal_number_iff (w : String) (s : List Char) :
    (seq (literal w) number).Matches s ↔ ∃ n, w.toList ++ decimal n = s := by
  simp only [matches_seq_iff, matches_literal_iff, matches_number_iff]
  constructor
  · rintro ⟨_, _, rfl, ⟨n, rfl⟩, rfl⟩
    exact ⟨n, rfl⟩
  · rintro ⟨n, rfl⟩
    exact ⟨_, _, rfl, ⟨n, rfl⟩, rfl⟩

theorem matches_preLabel_iff (s : List Char) :
    (choice [literal "a", literal "b", literal "rc"]).Matches s ↔ ∃ cls, preLabel cls = s := by
  simp only [matches_choice_iff, List.mem_cons, List.not_mem_nil, or_false, exists_eq_or_imp, exists_eq_left, matches_literal_iff]
  constructor
  · rintro (rfl | rfl | rfl)
    · exact ⟨.alpha, rfl⟩
    · exact ⟨.beta, rfl⟩
    · exact ⟨.candidate, rfl⟩
  · rintro ⟨cls, rfl⟩
    cases cls with
    | alpha => exact .inl rfl
    | beta => exact .inr (.inl rfl)
    | candidate => exact .inr (.inr rfl)

theorem matches_pre_iff (s : List Char) :
    (seq (choice [literal "a", literal "b", literal "rc"]) number).Matches s ↔
      ∃ pre : PreClass × Nat, preLabel pre.1 ++ decimal pre.2 = s := by
  simp only [matches_seq_iff, matches_preLabel_iff, matches_number_iff]
  constructor
  · rintro ⟨_, _, ⟨cls, rfl⟩, ⟨n, rfl⟩, rfl⟩
    exact ⟨(cls, n), rfl⟩
  · rintro ⟨⟨cls, n⟩, rfl⟩
    exact ⟨_, _, ⟨cls, rfl⟩, ⟨n, rfl⟩, rfl⟩

theorem matches_printedEpoch_iff (s : List Char) :
    (optional (seq positive (char '!'))).Matches s ↔ ∃ epoch, written (fun n => decimal n ++ ['!']) (printedEpoch epoch) = s := by
  simp only [matches_optional_iff, matches_seq_iff, matches_positive_iff, char, matches_one_iff, beq_iff_eq]
  constructor
  · rintro (rfl | ⟨_, _, ⟨n, above, rfl⟩, ⟨_, rfl, rfl⟩, rfl⟩)
    · exact ⟨0, rfl⟩
    · exact ⟨n, by rw [printedEpoch, if_neg (Nat.ne_of_gt above), written_some]⟩
  · rintro ⟨n, rfl⟩
    unfold printedEpoch
    split
    next => exact .inl rfl
    next some => exact .inr ⟨_, _, ⟨n, Nat.pos_of_ne_zero some, rfl⟩, ⟨'!', rfl, rfl⟩, rfl⟩

theorem matches_printedMinors_iff (s : List Char) :
    (many (seq (char '.') number)).Matches s ↔ ∃ minors : List Nat, minors.flatMap printMinor = s := by
  have dotted : ∀ t, (seq (char '.') number).Matches t ↔ ∃ n, printMinor n = t := by
    intro t
    simp only [matches_seq_iff, char, matches_one_iff, beq_iff_eq, matches_number_iff]
    constructor
    · rintro ⟨_, _, ⟨_, rfl, rfl⟩, ⟨n, rfl⟩, rfl⟩
      exact ⟨n, rfl⟩
    · rintro ⟨n, rfl⟩
      exact ⟨_, _, ⟨'.', rfl, rfl⟩, ⟨n, rfl⟩, rfl⟩
  simp only [matches_many_iff, dotted]
  constructor
  · rintro ⟨pieces, each, rfl⟩
    induction pieces with
    | nil => exact ⟨[], rfl⟩
    | cons t pieces ih =>
      obtain ⟨⟨n, first⟩, others⟩ := List.forall_mem_cons.mp each
      obtain ⟨minors, rest⟩ := ih others
      exact ⟨n :: minors, by rw [List.flatMap_cons, first, rest, List.flatten_cons]⟩
  · rintro ⟨minors, rfl⟩
    refine ⟨minors.map printMinor, ?_, List.flatMap_def⟩
    intro t ht
    obtain ⟨n, -, e⟩ := List.mem_map.mp ht
    exact ⟨n, e⟩

/-- The texts in the grammar of canonical versions are just those that are printed. -/
theorem matches_normalVersion_iff (s : List Char) : normalVersion.Matches s ↔ ∃ p : Parts, p.print = s := by
  have post : ∀ t, (seq (literal ".post") number).Matches t ↔ ∃ n, ['.', 'p', 'o', 's', 't'] ++ decimal n = t :=
    matches_literal_number_iff ".post"
  have dev : ∀ t, (seq (literal ".dev") number).Matches t ↔ ∃ n, ['.', 'd', 'e', 'v'] ++ decimal n = t :=
    matches_literal_number_iff ".dev"
  simp only [normalVersion, matches_sequence_cons_iff, sequence_singleton, matches_printedEpoch_iff, matches_number_iff,
    matches_printedMinors_iff]
  simp only [matches_optional_iff, exists_written_iff matches_pre_iff, exists_written_iff post, exists_written_iff dev]
  constructor
  · rintro ⟨_, _, ⟨epoch, rfl⟩, ⟨_, _, ⟨major, rfl⟩, ⟨_, _, ⟨minors, rfl⟩, ⟨_, _, ⟨pre, rfl⟩, ⟨_, _, ⟨post, rfl⟩, ⟨dev, rfl⟩,
      rfl⟩, rfl⟩, rfl⟩, rfl⟩, rfl⟩
    exact ⟨{ epoch, major, minors, pre, post, dev }, print_eq _⟩
  · rintro ⟨p, rfl⟩
    exact ⟨_, _, ⟨p.epoch, rfl⟩, ⟨_, _, ⟨p.major, rfl⟩, ⟨_, _, ⟨p.minors, rfl⟩, ⟨_, _, ⟨p.pre, rfl⟩, ⟨_, _, ⟨p.post, rfl⟩,
      ⟨p.dev, rfl⟩, rfl⟩, rfl⟩, rfl⟩, rfl⟩, print_eq p⟩

/-! ## Canonical forms -/

/-- The texts in the grammar of canonical versions are versions of which they are the canonical form, and no other text is. -/
theorem matches_normalVersion_iff_parse (s : String) :
    normalVersion.Matches s.toList ↔ ∃ u, parse s = .ok u ∧ u.text = s ∧ u.canonical = s := by
  rw [matches_normalVersion_iff]
  constructor
  · rintro ⟨p, printed⟩
    have accepted : publicVersion.accepts s.toList = true := printed ▸ Pattern.accepts_iff.mpr p.matches_print
    refine ⟨⟨s, accepted⟩, parse_text ⟨s, accepted⟩, rfl, ?_⟩
    have read : Parts.read? s.toList = some p := printed ▸ p.read?_print
    simp only [canonical, read, printed, String.ofList_toList]
  · rintro ⟨u, -, -, same⟩
    obtain ⟨p, -, spelled⟩ := u.exists_parts
    exact ⟨p, by rw [← spelled, same]⟩

/-- A version shows the components of one reading. -/
theorem exists_shows (v : Version) : ∃ p, (∀ q, v.Shows q ↔ q = p) ∧ v.canonical.toList = p.print := by
  obtain ⟨p, read, spelled⟩ := v.exists_parts
  refine ⟨p, fun q => ?_, spelled⟩
  rw [shows_iff, read, Option.some_inj]
  exact eq_comm

theorem canonical_eq_iff (v w : Version) : v.canonical = w.canonical ↔ ∀ p, v.Shows p ↔ w.Shows p := by
  obtain ⟨p, ofV, spelledV⟩ := v.exists_shows
  obtain ⟨q, ofW, spelledW⟩ := w.exists_shows
  have prints : v.canonical = w.canonical ↔ p.print = q.print := by rw [← spelledV, ← spelledW, String.toList_inj]
  rw [prints]
  constructor
  · intro same r
    have read : some p = some q := by rw [← p.read?_print, same, q.read?_print]
    rw [ofV, ofW, Option.some.inj read]
  · intro same
    have shown : q = p := (ofV q).mp ((same q).mpr ((ofW q).mpr rfl))
    rw [shown]

theorem Shows.unique {v : Version} {p q : Parts} (h : v.Shows p) (h' : v.Shows q) : p = q := by
  rw [shows_iff] at h h'
  exact Option.some.inj (h.symm.trans h')

/-- Two versions have one canonical form just when the components that they show are the same. -/
theorem canonical_eq_iff_of_shows {v w : Version} {p q : Parts} (ofV : v.Shows p) (ofW : w.Shows q) :
    v.canonical = w.canonical ↔ p = q := by
  rw [canonical_eq_iff]
  constructor
  · intro same
    exact ((same p).mp ofV).unique ofW
  · rintro rfl r
    constructor
    · intro shown
      rwa [shown.unique ofV]
    · intro shown
      rwa [shown.unique ofW]

end Version

end ReleaseGate
