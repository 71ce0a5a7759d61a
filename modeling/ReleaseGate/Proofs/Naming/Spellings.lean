import Mathlib.Data.List.Pairwise
import Mathlib.Data.List.SplitBy
import ReleaseGate.Proofs.Naming.Normalization
import ReleaseGate.Proofs.Run.Course
import ReleaseGate.Proofs.Text.LowerCase
import ReleaseGate.Proofs.Verification.Families

/-!
# Spellings of one name

Packaging tools take two names for the same when they differ only in the case of their letters and in how their words are separated.
That is said here without normalizing them: `collapsed` replaces each run of separators by one. Names are normalized to the same
exactly when they are the same in this sense, whichever separator is written for a run (`normalizeName_eq_iff`); and a file whose
name begins with some spelling of the package is not taken for one of another package.
-/

namespace ReleaseGate.Naming

open Text

/-! ## Runs of separators -/

/-- The pieces of a text: as many separators as stand next to one another, or one character that separates nothing. -/
def pieces (s : List Char) : List (List Char) := s.splitBy fun c d => isWordSeparator c && isWordSeparator d

/-- A text with each run of separators replaced by one separator. -/
def collapsed (sep : Char) (s : List Char) : List Char :=
  (pieces s).flatMap fun piece => if piece.any isWordSeparator then [sep] else piece

/-- A text is nothing, or begins with a character that separates nothing, or with a run of separators that ends there. -/
theorem runs_induction {motive : List Char → Prop} (nil : motive [])
    (plain : ∀ c rest, isWordSeparator c = false → motive rest → motive (c :: rest))
    (run : ∀ separators rest, separators ≠ [] → (∀ c ∈ separators, isWordSeparator c = true) →
      (∀ c ∈ rest.head?, isWordSeparator c = false) → motive rest → motive (separators ++ rest)) (s : List Char) : motive s := by
  -- a run is taken whole, so the recursion is on the length of the text and not on its tail
  match s with
  | [] => exact nil
  | c :: rest =>
    by_cases separator : isWordSeparator c = true
    · have shorter : (rest.dropWhile isWordSeparator).length ≤ rest.length := (List.dropWhile_sublist _).length_le
      have behind := List.head?_dropWhile_not isWordSeparator rest
      have whole : c :: rest = (c :: rest.takeWhile isWordSeparator) ++ rest.dropWhile isWordSeparator := by simp
      rw [whole]
      refine run _ _ (List.cons_ne_nil _ _) ?_ ?_ (runs_induction nil plain run _)
      · exact List.forall_mem_cons.mpr ⟨separator, List.all_eq_true.mp List.all_takeWhile⟩
      · intro d hd
        rw [Option.mem_def.mp hd] at behind
        simpa using behind
    · exact plain c rest (by simpa using separator) (runs_induction nil plain run rest)
termination_by s.length

theorem collapsed_cons {sep c : Char} (plain : isWordSeparator c = false) (rest : List Char) :
    collapsed sep (c :: rest) = c :: collapsed sep rest := by
  have cut : pieces (c :: rest) = [c] :: pieces rest := by
    unfold pieces
    rw [← List.singleton_append, List.splitBy_append (by simp [plain])]
    rfl
  simp [collapsed, cut, plain]

/-- What holds no separator stays as it is, whatever follows. -/
theorem collapsed_append_of_plain {sep : Char} {word : List Char} (plain : ∀ c ∈ word, isWordSeparator c = false) (rest : List Char) :
    collapsed sep (word ++ rest) = word ++ collapsed sep rest := by
  induction word with
  | nil => rfl
  | cons c word ih =>
    obtain ⟨first, later⟩ := List.forall_mem_cons.mp plain
    rw [List.cons_append, collapsed_cons first, ih later, List.cons_append]

/-- A whole run of separators, which no separator follows, becomes one separator. -/
theorem collapsed_append_of_run {sep : Char} {separators rest : List Char} (some_there : separators ≠ [])
    (all : ∀ c ∈ separators, isWordSeparator c = true) (ends : ∀ c ∈ rest.head?, isWordSeparator c = false) :
    collapsed sep (separators ++ rest) = sep :: collapsed sep rest := by
  have one : separators.splitBy (fun c d => isWordSeparator c && isWordSeparator d) = [separators] := by
    apply List.splitBy_of_isChain some_there
    apply List.Pairwise.isChain
    apply List.pairwise_of_forall_mem_list
    intro c hc d hd
    rw [all c hc, all d hd]
    rfl
  have cut : pieces (separators ++ rest) = separators :: pieces rest := by
    unfold pieces
    rw [List.splitBy_append, one]
    · rfl
    · intro c _ d hd
      rw [ends d hd, Bool.and_false]
  have separates : separators.any isWordSeparator = true := by
    obtain ⟨c, hc⟩ := List.exists_mem_of_ne_nil separators some_there
    exact List.any_eq_true.mpr ⟨c, hc, all c hc⟩
  rw [collapsed, cut, List.flatMap_cons, if_pos separates]
  rfl

/-- A text that begins with no separator begins with none when it is collapsed. -/
theorem head?_collapsed {sep : Char} {s : List Char} (plain : ∀ c ∈ s.head?, isWordSeparator c = false) :
    (collapsed sep s).head? = s.head? := by
  cases s with
  | nil => rfl
  | cons c rest => rw [collapsed_cons (plain c rfl), List.head?_cons, List.head?_cons]

/-- Only the last separator that is written for the runs counts. -/
theorem collapsed_collapsed {sep sep' : Char} (separator : isWordSeparator sep' = true) (s : List Char) :
    collapsed sep (collapsed sep' s) = collapsed sep s := by
  induction s using runs_induction with
  | nil => rfl
  | plain c rest plain ih => rw [collapsed_cons plain, collapsed_cons plain, collapsed_cons plain, ih]
  | run separators rest some_there all ends ih =>
    have one : ∀ c ∈ [sep'], isWordSeparator c = true := List.forall_mem_singleton.mpr separator
    have ends' : ∀ c ∈ (collapsed sep' rest).head?, isWordSeparator c = false := by
      rw [head?_collapsed ends]
      exact ends
    rw [collapsed_append_of_run some_there all ends, collapsed_append_of_run some_there all ends,
      ← List.singleton_append, collapsed_append_of_run (List.cons_ne_nil _ _) one ends', ih]

/-- Whichever separator is written for the runs, the same texts become equal. -/
theorem collapsed_eq_iff {sep sep' : Char} (separator : isWordSeparator sep = true) (separator' : isWordSeparator sep' = true)
    (a b : List Char) : collapsed sep a = collapsed sep b ↔ collapsed sep' a = collapsed sep' b := by
  constructor
  · intro same
    rw [← collapsed_collapsed separator a, same, collapsed_collapsed separator]
  · intro same
    rw [← collapsed_collapsed separator' a, same, collapsed_collapsed separator']

/-! ## Letters in lower case -/

/-- What separates is its own lower-case form. -/
theorem lowerChar_of_isWordSeparator {c : Char} (separator : isWordSeparator c = true) : lowerChar c = [c] := by
  rcases (isWordSeparator_iff c).mp separator with rfl | rfl | rfl
  all_goals rfl

/-- What separates is in no lower-case form but its own. -/
theorem eq_of_mem_lowerChar {c d : Char} (separator : isWordSeparator d = true) (h : d ∈ lowerChar c) : c = d := by
  rcases lowerChar_cases c with ⟨form, -⟩ | form | ⟨r, known, held, form⟩ | form
  · obtain rfl : d = c.toLower := List.mem_singleton.mp (form ▸ h)
    exact (toLower_eq_iff (isAlpha_of_isWordSeparator separator)).mp rfl
  · rw [form] at h
    simp only [List.mem_cons, List.not_mem_nil, or_false] at h
    rcases h with rfl | rfl
    all_goals cases separator
  · -- letters are turned into what comes after the separators
    obtain rfl : d = Char.ofNat (c.toNat + r.shift).toNat := List.mem_singleton.mp (form ▸ h)
    rcases shifted_cases known held with null | ⟨letter, -⟩
    · rw [null] at separator
      cases separator
    · rcases (isWordSeparator_iff _).mp separator with same | same | same
      all_goals
        rw [same] at letter
        exact absurd letter (by decide)
  · exact (List.mem_singleton.mp (form ▸ h)).symm

/-- The lower-case form of what separates nothing holds no separator. -/
theorem isWordSeparator_of_mem_lowerChar {c d : Char} (plain : isWordSeparator c = false) (h : d ∈ lowerChar c) :
    isWordSeparator d = false := by
  rw [Bool.eq_false_iff]
  intro separator
  rw [eq_of_mem_lowerChar separator h, separator] at plain
  cases plain

theorem lower_of_separators {separators : List Char} (all : ∀ c ∈ separators, isWordSeparator c = true) :
    lower separators = separators :=
  lower_eq_self fun c hc => lowerChar_of_isWordSeparator (all c hc)

/-- A text that begins with no separator begins with none in lower case. -/
theorem head?_lower {s : List Char} (plain : ∀ c ∈ s.head?, isWordSeparator c = false) :
    ∀ c ∈ (lower s).head?, isWordSeparator c = false := by
  cases s with
  | nil => nofun
  | cons c rest =>
    obtain ⟨d, more, form⟩ := List.exists_cons_of_ne_nil (lowerChar_ne_nil c)
    intro e he
    rw [lower_cons, form] at he
    obtain rfl : d = e := by simpa using he
    exact isWordSeparator_of_mem_lowerChar (plain c rfl) (by simp [form])

/-- It makes no difference whether letters are lowered before the runs are replaced or after. -/
theorem lower_collapsed {sep : Char} (separator : isWordSeparator sep = true) (s : List Char) :
    lower (collapsed sep s) = collapsed sep (lower s) := by
  induction s using runs_induction with
  | nil => rfl
  | plain c rest plain ih =>
    rw [collapsed_cons plain, lower_cons, lower_cons, ih,
      collapsed_append_of_plain fun d hd => isWordSeparator_of_mem_lowerChar plain hd]
  | run separators rest some_there all ends ih =>
    rw [collapsed_append_of_run some_there all ends, lower_cons, lowerChar_of_isWordSeparator separator, ih, lower_append,
      lower_of_separators all, collapsed_append_of_run some_there all (head?_lower ends)]
    rfl

/-! ## Normalized names -/

/-- Separators that are read after a separator are normalized to nothing. -/
theorem normalizeFrom_of_run {separators rest : List Char} (all : ∀ c ∈ separators, isWordSeparator c = true)
    (ends : ∀ c ∈ rest.head?, isWordSeparator c = false) :
    normalizeFrom true (separators ++ rest) = normalizeFrom false rest := by
  induction separators with
  | nil =>
    cases rest with
    | nil => rfl
    | cons c rest =>
      have plain : isWordSeparator c = false := ends c rfl
      simp [normalizeFrom, plain]
  | cons c separators ih =>
    obtain ⟨first, later⟩ := List.forall_mem_cons.mp all
    rw [List.cons_append, normalizeFrom, if_pos first, if_pos rfl, ih later]

/-- A name is normalized to what it is in lower case with an underscore for each run of separators. -/
theorem normalizeName_eq_collapsed (s : List Char) : normalizeName s = collapsed '_' (lower s) := by
  unfold normalizeName
  induction s using runs_induction with
  | nil => rfl
  | plain c rest plain ih =>
    rw [lower_cons, collapsed_append_of_plain fun d hd => isWordSeparator_of_mem_lowerChar plain hd, ← ih]
    simp [normalizeFrom, plain]
  | run separators rest some_there all ends ih =>
    rw [lower_append, lower_of_separators all, collapsed_append_of_run some_there all (head?_lower ends), ← ih]
    obtain ⟨c, more, rfl⟩ := List.exists_cons_of_ne_nil some_there
    obtain ⟨first, later⟩ := List.forall_mem_cons.mp all
    rw [List.cons_append, normalizeFrom, if_pos first, normalizeFrom_of_run later ends]
    rfl

theorem normalizeName_normalizeName (s : List Char) : normalizeName (normalizeName s) = normalizeName s := by
  have underscore : isWordSeparator '_' = true := rfl
  rw [normalizeName_eq_collapsed, normalizeName_eq_collapsed, lower_collapsed underscore, lower_lower,
    collapsed_collapsed underscore]

/-- Names are normalized to the same just when they are the same in lower case with one separator for each run of them. -/
theorem normalizeName_eq_iff {sep : Char} (separator : isWordSeparator sep = true) (a b : List Char) :
    normalizeName a = normalizeName b ↔ collapsed sep (lower a) = collapsed sep (lower b) := by
  rw [normalizeName_eq_collapsed, normalizeName_eq_collapsed, collapsed_eq_iff rfl separator]

example : normalizeName "Foo.Bar--baz".toList = normalizeName "foo_BAR.baz".toList := by decide

end ReleaseGate.Naming

/-! ## The files of a package -/

namespace ReleaseGate.Verifier

open Naming Text

/-- How a finding begins that a file is of another package. -/
def foreignText : String := "file name does not belong to package "

/-- Whether a finding is that a file is of another package. -/
def TellsForeign (i : Issue) : Prop := i.family = .attribution ∧ foreignText.toList <+: i.detail.toList

/-- A text does not begin with another when the two go different ways. -/
theorem not_isPrefix_append {start front : String} (clash : ¬start.toList <+: front.toList ∧ ¬front.toList <+: start.toList)
    (rest : String) : ¬start.toList <+: (front ++ rest).toList := by
  rw [String.toList_append]
  intro h
  rcases List.prefix_or_prefix_of_prefix h (List.prefix_append front.toList rest.toList) with inside | around
  · exact clash.1 inside
  · exact clash.2 around

/-- Of the findings on the name of a file only one says that it is of another package, and only when it does not begin as the package
does. -/
theorem tellsForeign_of_mem_nameIssues {canonical : String} {package : List Char} {a : Artifact} {i : Issue}
    (h : i ∈ nameIssues canonical (some package) a) (told : TellsForeign i) :
    i.subject = a.fileName ∧ ¬package <+: normalizeName a.fileName.toList := by
  rcases List.mem_append.mp h with version | foreign
  · split at version
    next => cases version
    next =>
      obtain rfl := List.mem_singleton.mp version
      exact absurd told.2 (not_isPrefix_append (by decide) canonical)
  · dsimp only at foreign
    split at foreign
    next => cases foreign
    next apart =>
      obtain rfl := List.mem_singleton.mp foreign
      exact ⟨rfl, fun h => apart (List.isPrefixOf_iff_prefix.mpr h)⟩

/-- A file of a set is reported as one of another package just when its name does not begin as that of the package does, both
normalized. -/
theorem exists_tellsForeign_iff (fs : FileSystem) (cwd : Place) {s : ArtifactSet} {d : Descriptor} (described : s.descriptor = some d)
    {a : Artifact} (ha : a ∈ s.artifacts) :
    (∃ i ∈ (verify fs cwd s).issues, i.subject = a.fileName ∧ TellsForeign i) ↔
      ¬normalizeName d.name.toList <+: normalizeName a.fileName.toList := by
  rw [verify, Verdict.issues_ofIssues]
  constructor
  · rintro ⟨i, hi, named, told⟩
    rw [mem_issues_iff, told.1] at hi
    have found : i ∈ attributionIssues s := hi
    unfold attributionIssues at found
    rw [described] at found
    rcases List.mem_append.mp found with name | version
    · obtain ⟨b, hb, inside⟩ := List.mem_flatMap.mp name
      obtain ⟨named', foreign⟩ := tellsForeign_of_mem_nameIssues inside told
      rwa [← named, named']
    · dsimp only at version
      split at version
      next => cases version
      next =>
        obtain rfl := List.mem_singleton.mp version
        have begins := told.2
        simp only [String.append_assoc] at begins
        exact absurd begins (not_isPrefix_append (by decide) _)
  · intro foreign
    refine ⟨⟨.attribution, a.fileName, s!"{foreignText}{String.ofList (normalizeName d.name.toList)}"⟩, ?_, rfl, rfl, ?_⟩
    · rw [mem_issues_iff]
      refine List.mem_append_left _ (List.mem_flatMap.mpr ⟨a, ha, List.mem_append_right _ ?_⟩)
      rw [described]
      dsimp only [Option.map_some]
      rw [if_neg fun begins => foreign (List.isPrefixOf_iff_prefix.mp begins)]
      exact List.mem_singleton_self _
    · rw [String.toList_append]
      exact List.prefix_append _ _

/-- Names are normalized as packaging tools compare them. Normalizing is idempotent. Two names are normalized to the same just when
they become equal with their letters in lower case, which in ASCII concerns the 26 letters, and one separator for each run of them,
whichever is written. The start of a name is normalized to a start of the whole. So a file is reported as one of another package just
when its name, normalized, does not begin with that of the package; and never when it begins with some spelling of the package. -/
theorem normalizeName_laws :
    (∀ s, normalizeName (normalizeName s) = normalizeName s) ∧
      (∀ s, (∀ c ∈ s, c.toNat < 0x80) → lower s = lowerAscii s) ∧
      (∀ sep, isWordSeparator sep = true →
        ∀ a b, normalizeName a = normalizeName b ↔ collapsed sep (lower a) = collapsed sep (lower b)) ∧
      (∀ a b, normalizeName a <+: normalizeName (a ++ b)) ∧
      ∀ fs cwd (s : ArtifactSet) d, s.descriptor = some d → ∀ a ∈ s.artifacts,
        ((∃ i ∈ (verify fs cwd s).issues, i.subject = a.fileName ∧ TellsForeign i) ↔
            ¬normalizeName d.name.toList <+: normalizeName a.fileName.toList) ∧
          ∀ sep spelling rest, isWordSeparator sep = true →
            collapsed sep (lower spelling) = collapsed sep (lower d.name.toList) → a.fileName.toList = spelling ++ rest →
              ∀ i ∈ (verify fs cwd s).issues, i.subject = a.fileName → ¬TellsForeign i := by
  refine ⟨normalizeName_normalizeName, fun _ => lower_of_ascii, fun _ => normalizeName_eq_iff, normalizeName_prefix, ?_⟩
  intro fs cwd s d described a ha
  have reported := exists_tellsForeign_iff fs cwd described ha
  refine ⟨reported, ?_⟩
  intro sep spelling rest separator same begins i hi named told
  have package : normalizeName d.name.toList <+: normalizeName a.fileName.toList := by
    rw [begins, ← (normalizeName_eq_iff separator spelling d.name.toList).mpr same]
    exact normalizeName_prefix spelling rest
  exact reported.mp ⟨i, hi, named, told⟩ package

end ReleaseGate.Verifier

namespace ReleaseGate.Widget

open Naming Text Verifier

/-- A file whose name begins with a spelling of its package that the package does not use. -/
def respelled : ArtifactSet :=
  { set with
    artifacts := [{ archive with fileName := "FOO__bar.Baz-1.2.0.tar.gz" }]
    descriptor := some { descriptor with name := "Foo.Bar--baz" } }

/-- The two spellings are normalized to the same, and the file is not taken for one of another package. -/
theorem normalizeName_laws_respelled :
    collapsed '-' (lower "FOO__bar.Baz".toList) = collapsed '-' (lower "Foo.Bar--baz".toList) ∧
      lower "FOO__bar.Baz".toList = lowerAscii "FOO__bar.Baz".toList ∧
      normalizeName "FOO__bar.Baz".toList = normalizeName "Foo.Bar--baz".toList ∧
      ∀ i ∈ (verify files [] respelled).issues, i.subject = "FOO__bar.Baz-1.2.0.tar.gz" → ¬TellsForeign i := by
  obtain ⟨-, ascii, kernel, -, files_of⟩ := normalizeName_laws
  have plain : "FOO__bar.Baz".toList.all (fun c => decide (c.toNat < 0x80)) = true := by decide
  have same : collapsed '-' (lower "FOO__bar.Baz".toList) = collapsed '-' (lower "Foo.Bar--baz".toList) := by decide +kernel
  have one := (kernel '-' rfl "FOO__bar.Baz".toList "Foo.Bar--baz".toList).mpr same
  have file := (files_of files [] respelled _ rfl _ (List.mem_singleton_self _)).2 '-' "FOO__bar.Baz".toList "-1.2.0.tar.gz".toList
    rfl same (by decide +kernel)
  exact ⟨same, ascii _ fun c hc => of_decide_eq_true (List.all_eq_true.mp plain c hc), one, file⟩

end ReleaseGate.Widget
