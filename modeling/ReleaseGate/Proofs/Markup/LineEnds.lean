import ReleaseGate.Proofs.Run.Course
import ReleaseGate.Proofs.Text.Lines

/-!
# Line ends in long descriptions

A long description may come with a carriage return before each newline. Lines are the same with it and without, and so are the
findings on fences and on titles. Paragraphs are not: two newlines separate them only where nothing stands in between, so a text with
carriage returns is one paragraph (`paragraphs_withReturns`), and literals that several paragraphs leave open are counted together.
`returns_unseen_iff` says of which texts the findings are the same all the same.
-/

namespace ReleaseGate

/-! ## Lines -/

namespace Text

/-- A text with a carriage return before each newline. -/
def withReturns (s : List Char) : List Char := s.flatMap fun c => if c = '\n' then ['\r', '\n'] else [c]

/-- A text has no newline, or it is a line that is ended and another text. -/
theorem lines_induction {motive : List Char → Prop} (last : ∀ s, '\n' ∉ s → motive s)
    (ended : ∀ line rest, '\n' ∉ line → motive rest → motive (line ++ '\n' :: rest)) (s : List Char) : motive s := by
  induction length : s.length using Nat.strongRecOn generalizing s with
  | ind n ih =>
    by_cases newline : '\n' ∈ s
    · obtain ⟨line, rest, rfl, first⟩ := List.eq_append_cons_of_mem newline
      rw [List.length_append, List.length_cons] at length
      exact ended line rest first (ih rest.length (by omega) rest rfl)
    · exact last s newline

theorem withReturns_of_line {line : List Char} (h : '\n' ∉ line) : withReturns line = line := by
  induction line with
  | nil => rfl
  | cons c line ih =>
    rw [List.mem_cons, not_or] at h
    rw [withReturns, List.flatMap_cons, if_neg (Ne.symm h.1), ← withReturns, ih h.2]
    rfl

theorem withReturns_append {line : List Char} (h : '\n' ∉ line) (rest : List Char) :
    withReturns (line ++ '\n' :: rest) = line ++ '\r' :: '\n' :: withReturns rest := by
  rw [withReturns, List.flatMap_append, List.flatMap_cons, if_pos rfl, ← withReturns, withReturns_of_line h]
  rfl

/-- A carriage return before each newline is no part of the lines. -/
theorem lines_withReturns {s : List Char} (plain : '\r' ∉ s) : lines (withReturns s) = lines s := by
  induction s using lines_induction with
  | last s oneLine => rw [withReturns_of_line oneLine]
  | ended line rest oneLine ih =>
    rw [List.mem_append, List.mem_cons, not_or, not_or] at plain
    have unreturned : dropCarriageReturn line = line :=
      dropCarriageReturn_eq_self fun last => plain.1 (List.mem_of_getLast? last)
    have returned : dropCarriageReturn (line ++ ['\r']) = line := by simp [dropCarriageReturn]
    have oneLine' : '\n' ∉ line ++ ['\r'] := by simp [oneLine]
    have whole : line ++ '\r' :: '\n' :: withReturns rest = (line ++ ['\r']) ++ '\n' :: withReturns rest := by simp
    rw [withReturns_append oneLine, whole, lines_append oneLine', lines_append oneLine, returned, unreturned, ih plain.2.2]

theorem head?_withReturns (s : List Char) : (withReturns s).head? = if s.head? = some '\n' then some '\r' else s.head? := by
  cases s with
  | nil => rfl
  | cons c s => by_cases newline : c = '\n' <;> simp [withReturns, newline]

end Text

/-! ## Paragraphs -/

namespace Restructured

open Text

theorem paragraphs_ne_nil (s : List Char) : paragraphs s ≠ [] := by
  fun_cases paragraphs s <;> exact List.cons_ne_nil _ _

/-- A character that is no newline before another is the first of its paragraph. -/
theorem paragraphs_cons {c : Char} {s : List Char} (h : ¬['\n', '\n'] <+: c :: s) :
    ∃ p more, paragraphs s = p :: more ∧ paragraphs (c :: s) = (c :: p) :: more := by
  obtain ⟨p, more, cut⟩ := List.exists_cons_of_ne_nil (paragraphs_ne_nil s)
  refine ⟨p, more, cut, ?_⟩
  unfold paragraphs
  split
  next => contradiction
  next rest same => exact absurd (same ▸ List.prefix_append ['\n', '\n'] rest) h
  next same =>
    obtain ⟨rfl, rfl⟩ := List.cons.inj same
    rw [cut]

/-- The paragraphs of a text, with two newlines between each two, are the text. -/
theorem joinWith_paragraphs (s : List Char) : joinWith ['\n', '\n'] (paragraphs s) = s := by
  fun_induction paragraphs s with
  | case1 => rfl
  | case2 rest ih =>
    obtain ⟨p, more, cut⟩ := List.exists_cons_of_ne_nil (paragraphs_ne_nil rest)
    rw [cut] at ih ⊢
    simp [joinWith, ih]
  | case3 c rest _ nothing => exact absurd nothing (paragraphs_ne_nil rest)
  | case4 c rest _ p more cut ih =>
    rw [cut] at ih
    rw [← ih]
    cases more <;> simp [joinWith]

/-- A text in which no newline follows another is one paragraph. -/
theorem paragraphs_eq_singleton {s : List Char} (h : ¬['\n', '\n'] <:+: s) : paragraphs s = [s] := by
  induction s with
  | nil => rfl
  | cons c s ih =>
    rw [List.infix_cons_iff, not_or] at h
    obtain ⟨p, more, cut, whole⟩ := paragraphs_cons h.1
    obtain ⟨rfl, rfl⟩ := List.cons.inj (cut.symm.trans (ih h.2))
    exact whole

/-- With a carriage return before each newline, a text is one paragraph. -/
theorem paragraphs_withReturns (s : List Char) : paragraphs (withReturns s) = [withReturns s] := by
  apply paragraphs_eq_singleton
  induction s with
  | nil => decide
  | cons c s ih =>
    have begun : (withReturns s).head? ≠ some '\n' := by
      rw [head?_withReturns]
      split
      next => decide
      next other => exact other
    have behind : ¬['\n', '\n'] <+: '\n' :: withReturns s := by
      rintro ⟨rest, same⟩
      exact begun (by simp [← (List.cons.inj same).2])
    rw [withReturns, List.flatMap_cons, ← withReturns]
    split
    next =>
      have front : ¬['\n', '\n'] <+: '\r' :: '\n' :: withReturns s := by simp
      rw [List.cons_append, List.cons_append, List.nil_append, List.infix_cons_iff, List.infix_cons_iff, not_or, not_or]
      exact ⟨front, behind, ih⟩
    next other =>
      have front : ¬['\n', '\n'] <+: c :: withReturns s := by simp [Ne.symm other]
      rw [List.singleton_append, List.infix_cons_iff, not_or]
      exact ⟨front, ih⟩

/-! ## Literals -/

theorem literalMarks_cons {c : Char} {s : List Char} (h : ¬['\x60', '\x60'] <+: c :: s) : literalMarks (c :: s) = literalMarks s := by
  rw [literalMarks]
  rintro rest rfl rfl
  exact h (List.prefix_append ['\x60', '\x60'] rest)

/-- A mark does not go on over another character than the backtick. -/
theorem literalMarks_append {c : Char} (other : c ≠ '\x60') (a b : List Char) :
    literalMarks (a ++ c :: b) = literalMarks a + literalMarks b := by
  fun_induction literalMarks a with
  | case1 rest ih =>
    rw [List.cons_append, List.cons_append, literalMarks, ih]
    omega
  | case2 d rest noMark ih =>
    rw [List.cons_append, literalMarks_cons ?_, ih]
    rintro ⟨after, same⟩
    obtain ⟨rfl, next⟩ := List.cons.inj same
    cases rest with
    | nil => exact other (List.cons.inj next).1.symm
    | cons e rest =>
      obtain ⟨rfl, -⟩ := List.cons.inj next
      exact noMark rest rfl rfl
  | case3 =>
    rw [List.nil_append, literalMarks_cons (by simp [Ne.symm other]), Nat.zero_add]

/-- The marks of paragraphs, all together. -/
def totalMarks (ps : List (List Char)) : Nat := ps.foldr (fun p n => literalMarks p + n) 0

theorem literalMarks_joinWith (ps : List (List Char)) : literalMarks (joinWith ['\n', '\n'] ps) = totalMarks ps := by
  induction ps with
  | nil => rfl
  | cons p ps ih =>
    cases ps with
    | nil => simp [joinWith, totalMarks]
    | cons q ps =>
      have whole : joinWith ['\n', '\n'] (p :: q :: ps) = p ++ '\n' :: '\n' :: joinWith ['\n', '\n'] (q :: ps) := by
        simp [joinWith]
      rw [whole, literalMarks_append (by decide), literalMarks_cons (by simp), ih]
      rfl

/-- The marks of a text are those of its paragraphs. -/
theorem totalMarks_paragraphs (s : List Char) : totalMarks (paragraphs s) = literalMarks s := by
  rw [← literalMarks_joinWith, joinWith_paragraphs]

theorem literalMarks_withReturns (s : List Char) : literalMarks (withReturns s) = literalMarks s := by
  induction s using lines_induction with
  | last s oneLine => rw [withReturns_of_line oneLine]
  | ended line rest oneLine ih =>
    rw [withReturns_append oneLine, literalMarks_append (by decide), literalMarks_append (by decide), literalMarks_cons (by simp), ih]

theorem isQuoted_withReturns (s : List Char) : isQuoted (withReturns s) = isQuoted s := by
  unfold isQuoted
  rw [head?_withReturns]
  split
  next newline => simp [newline]
  next => rfl

/-- A text is set in just when its first paragraph is: a text that begins with a newline is not. -/
theorem isQuoted_first {s first : List Char} {later : List (List Char)} (h : paragraphs s = first :: later) :
    isQuoted first = isQuoted s := by
  have whole := joinWith_paragraphs s
  rw [← whole, h]
  cases first <;> cases later <;> simp [joinWith, isQuoted]

/-- A paragraph that is looked at, and in which a literal is opened and not closed. -/
def IsUnterminated (p : List Char) : Prop := isQuoted p = false ∧ literalMarks p % 2 = 1

instance (p : List Char) : Decidable (IsUnterminated p) := inferInstanceAs (Decidable (_ ∧ _))

/-- What is said of an unterminated paragraph of a number. -/
def literalProblem (number : Nat) : String := s!"unterminated inline literal in paragraph {number}"

theorem literalProblem_injective {m n : Nat} (h : literalProblem m = literalProblem n) : m = n := by
  have written : ∀ k, (literalProblem k).toList = "unterminated inline literal in paragraph ".toList ++ k.repr.toList := by
    intro k
    exact String.toList_append
  have same := congrArg String.toList h
  rw [written, written, List.append_cancel_left_eq, String.toList_inj] at same
  exact Decimal.repr_inj same

theorem literalProblems_cons (n : Nat) (p : List Char) (later : List (List Char)) :
    literalProblems n (p :: later) = if IsUnterminated p then literalProblem n :: literalProblems (n + 1) later
      else literalProblems (n + 1) later := by
  have looked : (!isQuoted p && literalMarks p % 2 != 0) = true ↔ IsUnterminated p := by
    unfold IsUnterminated
    simp
  rw [literalProblems]
  simp only [looked]
  rfl

theorem literalProblems_eq_nil_iff (n : Nat) (ps : List (List Char)) : literalProblems n ps = [] ↔ ∀ p ∈ ps, ¬IsUnterminated p := by
  induction ps generalizing n with
  | nil => simp [literalProblems]
  | cons p ps ih =>
    rw [literalProblems_cons, List.forall_mem_cons, ← ih (n + 1)]
    by_cases unterminated : IsUnterminated p <;> simp [unterminated]

/-- What is said of paragraphs names their numbers, which begin with the first. -/
theorem exists_of_mem_literalProblems {n : Nat} {ps : List (List Char)} {said : String} (h : said ∈ literalProblems n ps) :
    ∃ m, n ≤ m ∧ said = literalProblem m := by
  induction ps generalizing n with
  | nil => cases h
  | cons p ps ih =>
    have later : said ∈ literalProblems (n + 1) ps → ∃ m, n ≤ m ∧ said = literalProblem m := by
      intro there
      obtain ⟨m, above, rfl⟩ := ih there
      exact ⟨m, by omega, rfl⟩
    rw [literalProblems_cons] at h
    split at h
    next =>
      rcases List.mem_cons.mp h with rfl | there
      · exact ⟨n, Nat.le_refl n, rfl⟩
      · exact later there
    next => exact later h

/-- A text whose paragraphs show the same literals when they run together: none after the first leaves one open, and the marks of
those after the first pair up, unless the first is set in. -/
structure RunsTogether (first : List Char) (later : List (List Char)) : Prop where
  terminated : ∀ p ∈ later, ¬IsUnterminated p
  paired : isQuoted first = true ∨ totalMarks later % 2 = 0

/-- A text is found to have the same unterminated paragraphs when it is taken for one just when its paragraphs run together. -/
theorem literalProblems_whole_iff {s first : List Char} {later : List (List Char)} (h : paragraphs s = first :: later) :
    literalProblems 1 [s] = literalProblems 1 (paragraphs s) ↔ RunsTogether first later := by
  have marks : literalMarks s = literalMarks first + totalMarks later := by
    rw [← totalMarks_paragraphs, h]
    rfl
  have quoted := isQuoted_first h
  have above : literalProblem 1 ∉ literalProblems 2 later := by
    intro there
    obtain ⟨m, above, same⟩ := exists_of_mem_literalProblems there
    have := literalProblem_injective same
    omega
  have split : (literalProblems 1 [s] = literalProblems 1 (first :: later)) ↔
      literalProblems 2 later = [] ∧ (IsUnterminated s ↔ IsUnterminated first) := by
    rw [literalProblems_cons, literalProblems_cons, literalProblems]
    by_cases whole : IsUnterminated s <;> by_cases front : IsUnterminated first
    · simp only [whole, front, if_true, List.cons.injEq, true_and, iff_self, and_true]
      exact eq_comm
    · simp only [whole, front, if_true, if_false, iff_false, not_true_eq_false, and_false]
      exact fun same => above (same ▸ List.mem_singleton_self _)
    · simp [whole, front]
    · simp only [whole, front, if_false, iff_self, and_true]
      exact eq_comm
  have pairs : (IsUnterminated s ↔ IsUnterminated first) ↔ isQuoted first = true ∨ totalMarks later % 2 = 0 := by
    unfold IsUnterminated
    rw [marks, ← quoted]
    cases isQuoted first with
    | true => simp
    | false =>
      simp only [true_and, Bool.false_eq_true, false_or]
      omega
  rw [h, split, pairs, literalProblems_eq_nil_iff]
  exact ⟨fun ⟨terminated, paired⟩ => ⟨terminated, paired⟩, fun runs => ⟨runs.terminated, runs.paired⟩⟩

end Restructured

/-! ## Findings -/

namespace Verifier

open Text Restructured

/-- A descriptor whose long description has a carriage return before each newline. -/
def returned (d : Descriptor) : Descriptor := { d with longDescription := String.ofList (withReturns d.longDescription.toList) }

/-- The findings on two long descriptions are the same when their problems are. -/
theorem markupIssues_eq_iff (s : ArtifactSet) (d e : Descriptor) :
    markupIssues { s with descriptor := some d } = markupIssues { s with descriptor := some e } ↔
      markupProblems (mediaType d) d.longDescription.toList = markupProblems (mediaType e) e.longDescription.toList := by
  apply List.map_inj_right
  intro p q same
  exact (Issue.mk.inj same).2.2

/-- With a carriage return before each newline of a long description, the findings on its fences are the same; and in
reStructuredText the findings are the same just when the paragraphs run together. -/
theorem returns_unseen_iff (s : ArtifactSet) {d : Descriptor} (plain : '\r' ∉ d.longDescription.toList) :
    (mediaType d ≠ "text/x-rst" →
      markupIssues { s with descriptor := some (returned d) } = markupIssues { s with descriptor := some d }) ∧
      (mediaType d = "text/x-rst" → ∀ first later, paragraphs d.longDescription.toList = first :: later →
        (markupIssues { s with descriptor := some (returned d) } = markupIssues { s with descriptor := some d } ↔
          RunsTogether first later)) := by
  have text : (returned d).longDescription.toList = withReturns d.longDescription.toList := String.toList_ofList
  have type : mediaType (returned d) = mediaType d := rfl
  rw [markupIssues_eq_iff, text, type]
  constructor
  · intro other
    unfold markupProblems
    split
    next => rw [Markdown.problems, lines_withReturns plain, ← Markdown.problems]
    next rst => exact absurd rst other
    next => rfl
  · intro rst first later cut
    have whole : literalProblems 1 (paragraphs (withReturns d.longDescription.toList)) =
        literalProblems 1 [d.longDescription.toList] := by
      have alike : IsUnterminated (withReturns d.longDescription.toList) ↔ IsUnterminated d.longDescription.toList := by
        rw [IsUnterminated, isQuoted_withReturns, literalMarks_withReturns, ← IsUnterminated]
      rw [paragraphs_withReturns, literalProblems_cons, literalProblems_cons]
      simp only [alike]
    have problems : ∀ t, markupProblems "text/x-rst" t = titleProblems 1 (lines t) ++ literalProblems 1 (paragraphs t) := fun _ => rfl
    rw [rst, problems, problems, lines_withReturns plain, List.append_right_inj, whole, literalProblems_whole_iff cut]

end Verifier

namespace Widget

open Text Verifier

/-- The widget with a long description in reStructuredText. -/
def explained (text : String) : Descriptor := { descriptor with longDescription := text, contentType := "text/x-rst" }

/-- A literal in a paragraph that is set in may run over its lines, however these end. -/
theorem returns_unseen_example :
    '\r' ∉ (explained "Widget\n\n  ``made\n  here``\n").longDescription.toList ∧
      mediaType (explained "Widget\n\n  ``made\n  here``\n") = "text/x-rst" ∧
      Restructured.paragraphs (explained "Widget\n\n  ``made\n  here``\n").longDescription.toList =
        ["Widget".toList, "  ``made\n  here``\n".toList] ∧
      markupIssues { set with descriptor := some (returned (explained "Widget\n\n  ``made\n  here``\n")) } =
        markupIssues { set with descriptor := some (explained "Widget\n\n  ``made\n  here``\n") } := by
  have plain : '\r' ∉ (explained "Widget\n\n  ``made\n  here``\n").longDescription.toList := by decide
  have rst : mediaType (explained "Widget\n\n  ``made\n  here``\n") = "text/x-rst" := by decide
  have cut : Restructured.paragraphs (explained "Widget\n\n  ``made\n  here``\n").longDescription.toList =
      ["Widget".toList, "  ``made\n  here``\n".toList] := by decide
  exact ⟨plain, rst, cut, ((returns_unseen_iff set plain).2 rst _ _ cut).mpr ⟨by decide, by decide⟩⟩

/-- Two paragraphs that leave a literal open are found, and with a carriage return before each newline they are not. -/
theorem returns_hide_literals :
    '\r' ∉ (explained "Call ``widget\n\nor widget`` twice.\n").longDescription.toList ∧
      (markupIssues { set with descriptor := some (explained "Call ``widget\n\nor widget`` twice.\n") }).map (·.detail) =
        ["unterminated inline literal in paragraph 1", "unterminated inline literal in paragraph 2"] ∧
      markupIssues { set with descriptor := some (returned (explained "Call ``widget\n\nor widget`` twice.\n")) } = [] := by
  decide

end Widget

end ReleaseGate
