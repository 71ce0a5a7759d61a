import ReleaseGate.Text.Lines

/-!
# Replacing in a text

A text is read from left to right: an occurrence at its front is replaced (`replaceEach_append`), and any other first character
stays (`replaceEach_cons`); `replaceEach_induction` is induction along this reading. Where a replacement lacks a character of what
it replaces, a text that holds an occurrence is changed (`replaceEach_ne_self`).
-/

namespace ReleaseGate.Text

variable {target replacement s rest : List Char} {c : Char}

theorem afterPrefix?_eq_none_iff {start s : List Char} : afterPrefix? start s = none ↔ ¬start <+: s := by
  rw [← isSome_afterPrefix?_iff, Option.not_isSome_iff_eq_none]

/-- Characters that are skipped might as well not be there. -/
theorem replaceFrom_eq (target replacement : List Char) (skip : Nat) (s : List Char) :
    replaceFrom target replacement skip s = replaceEach target replacement (s.drop skip) := by
  induction s generalizing skip with
  | nil => simp [replaceFrom, replaceEach]
  | cons c rest ih =>
    cases skip with
    | zero => rfl
    | succ k => rw [replaceFrom, ih, List.drop_succ_cons]

theorem replaceEach_nil : replaceEach target replacement [] = [] := rfl

/-- An occurrence at the front is replaced. -/
theorem replaceEach_append (inhabited : target ≠ []) :
    replaceEach target replacement (target ++ rest) = replacement ++ replaceEach target replacement rest := by
  obtain ⟨c, more, rfl⟩ := List.exists_cons_of_ne_nil inhabited
  have here : afterPrefix? (c :: more) (c :: (more ++ rest)) = some rest := afterPrefix?_append (c :: more) rest
  rw [List.cons_append, replaceEach, replaceFrom, here]
  dsimp only
  rw [replaceFrom_eq]
  simp

/-- A character at which no occurrence begins stays. -/
theorem replaceEach_cons (absent : ¬target <+: c :: rest) :
    replaceEach target replacement (c :: rest) = c :: replaceEach target replacement rest := by
  rw [replaceEach, replaceFrom, afterPrefix?_eq_none_iff.mpr absent]
  rfl

/-- A text in which no occurrence begins stays. -/
theorem replaceEach_append_of_passed (passed : ∀ u, u ≠ [] → u <:+ s → ¬target <+: u ++ rest) :
    replaceEach target replacement (s ++ rest) = s ++ replaceEach target replacement rest := by
  induction s with
  | nil => rfl
  | cons c s ih =>
    have here : ¬target <+: c :: (s ++ rest) := passed (c :: s) (List.cons_ne_nil c s) (List.suffix_refl _)
    have later := ih fun u inhabited ends => passed u inhabited (ends.trans (List.suffix_cons c s))
    rw [List.cons_append, replaceEach_cons here, later, List.cons_append]

/-- Induction along the reading of a text. -/
theorem replaceEach_induction {motive : List Char → Prop} (inhabited : target ≠ []) (nil : motive [])
    (occurs : ∀ rest, motive rest → motive (target ++ rest))
    (stays : ∀ c rest, ¬target <+: c :: rest → motive rest → motive (c :: rest)) (s : List Char) : motive s := by
  induction size : s.length using Nat.strongRecOn generalizing s with
  | ind n ih =>
    by_cases front : target <+: s
    · obtain ⟨rest, rfl⟩ := front
      have shorter : rest.length < n := by
        have some := List.length_pos_iff.mpr inhabited
        rw [← size, List.length_append]
        omega
      exact occurs rest (ih rest.length shorter rest rfl)
    · cases s with
      | nil => exact nil
      | cons c rest => exact stays c rest front (ih rest.length (by simp [← size]) rest rfl)

section Count

variable {mark : Char} (marked : mark ∈ target) (plain : mark ∉ replacement)

include marked plain

theorem count_replaceEach_le (s : List Char) : (replaceEach target replacement s).count mark ≤ s.count mark := by
  induction s using replaceEach_induction (List.ne_nil_of_mem marked) with
  | nil => exact Nat.le_refl _
  | occurs rest ih =>
    rw [replaceEach_append (List.ne_nil_of_mem marked), List.count_append, List.count_append, List.count_eq_zero.mpr plain]
    omega
  | stays c rest absent ih =>
    rw [replaceEach_cons absent, List.count_cons, List.count_cons]
    omega

/-- Where an occurrence stands, one mark at least is lost. -/
theorem count_replaceEach_lt (inside : target <:+: s) : (replaceEach target replacement s).count mark < s.count mark := by
  have some : 0 < target.count mark := List.count_pos_iff.mpr marked
  induction s using replaceEach_induction (List.ne_nil_of_mem marked) with
  | nil => exact absurd (List.infix_nil.mp inside) (List.ne_nil_of_mem marked)
  | occurs rest _ =>
    have kept := count_replaceEach_le marked plain rest
    rw [replaceEach_append (List.ne_nil_of_mem marked), List.count_append, List.count_append, List.count_eq_zero.mpr plain]
    omega
  | stays c rest absent ih =>
    have later := ih ((List.infix_cons_iff.mp inside).resolve_left absent)
    rw [replaceEach_cons absent, List.count_cons, List.count_cons]
    omega

/-- A text that holds an occurrence is changed, where the replacement lacks a character of what it replaces. -/
theorem replaceEach_ne_self (inside : target <:+: s) : replaceEach target replacement s ≠ s := by
  intro same
  have less := count_replaceEach_lt marked plain inside
  rw [same] at less
  exact Nat.lt_irrefl _ less

end Count

end ReleaseGate.Text
