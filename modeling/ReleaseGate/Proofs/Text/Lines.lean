import ReleaseGate.Proofs.Text.Decimal
import ReleaseGate.Text.Lines

/-!
# The lines of texts that are put together

A text of whole lines has a newline at its end, or nothing on it (`IsWhole`). Its lines stand before the lines of what follows it,
whatever that is (`IsWhole.linesOf_append`); so a text that is put together from whole lines has the lines of its pieces, one after
another. No line has a newline in it, so a piece that has one is no line of the text that it stands in.
-/

namespace ReleaseGate.Text

/-- A text without a newline. -/
def IsOneLine (s : String) : Prop := '\n' ∉ s.toList

/-- A text of whole lines. -/
def IsWhole (s : String) : Prop := s = "" ∨ ∃ t, s = t ++ "\n"

instance (s : String) : Decidable (IsOneLine s) := inferInstanceAs (Decidable (_ ∉ _))

@[simp] theorem isOneLine_append_iff (s t : String) : IsOneLine (s ++ t) ↔ IsOneLine s ∧ IsOneLine t := by
  unfold IsOneLine
  rw [String.toList_append, List.mem_append, not_or]

/-- A number is written in one line. -/
@[simp] theorem isOneLine_repr (n : Nat) : IsOneLine n.repr := by
  intro newline
  have digit := Decimal.isDigit_of_mem_toDigits (Nat.toList_repr ▸ newline)
  cases digit

/-- No line has a newline in it. -/
theorem isOneLine_of_mem_linesOf {s line : String} (h : line ∈ linesOf s) : IsOneLine line := by
  obtain ⟨chars, there, rfl⟩ := List.mem_map.mp h
  intro newline
  rw [String.toList_ofList] at newline
  exact (mem_of_mem_lines there newline).2 rfl

/-- Trimming a line takes the carriage return at its end with it. -/
theorem trim_dropCarriageReturn (line : List Char) : trim (dropCarriageReturn line) = trim line := by
  unfold dropCarriageReturn
  split
  next last =>
    obtain ⟨before, rfl⟩ := List.getLast?_eq_some_iff.mp last
    rw [List.dropLast_concat, trim_append_right (List.forall_mem_singleton.mpr rfl)]
  next => rfl

theorem IsWhole.linesOf_append {s : String} (h : IsWhole s) (rest : String) : linesOf (s ++ rest) = linesOf s ++ linesOf rest := by
  rcases h with rfl | ⟨t, rfl⟩
  · rw [String.empty_append]
    rfl
  · have newline : "\n".toList = ['\n'] := rfl
    unfold linesOf
    simp only [String.toList_append, newline, List.append_assoc, List.singleton_append, lines_append_newline, List.map_append]
    rfl

theorem isWhole_append_newline (s : String) : IsWhole (s ++ "\n") := .inr ⟨s, rfl⟩

theorem IsWhole.append {s t : String} (hs : IsWhole s) (ht : IsWhole t) : IsWhole (s ++ t) := by
  rcases ht with rfl | ⟨u, rfl⟩
  · rwa [String.append_empty]
  · exact .inr ⟨s ++ u, (String.append_assoc ..).symm⟩

/-- Texts of whole lines, one after another, are whole lines, and their lines stand one after another. -/
theorem linesOf_join {texts : List String} (whole : ∀ s ∈ texts, IsWhole s) :
    IsWhole (String.join texts) ∧ linesOf (String.join texts) = texts.flatMap linesOf := by
  induction texts with
  | nil => exact ⟨.inl rfl, rfl⟩
  | cons s more ih =>
    obtain ⟨first, later⟩ := List.forall_mem_cons.mp whole
    obtain ⟨rest, lines⟩ := ih later
    rw [String.join_cons, first.linesOf_append, lines]
    exact ⟨first.append rest, rfl⟩

/-- An ended line is one line, but for a carriage return at its end. -/
theorem linesOf_ended {line : String} (oneLine : IsOneLine line) :
    linesOf (line ++ "\n") = [String.ofList (dropCarriageReturn line.toList)] := by
  have newline : "\n".toList = ['\n'] := rfl
  unfold linesOf
  rw [String.toList_append, newline, lines_append oneLine]
  rfl

theorem linesOf_line {line : String} (oneLine : IsOneLine line) (noReturn : '\r' ∉ line.toList.getLast?) :
    linesOf (line ++ "\n") = [line] := by
  rw [linesOf_ended oneLine, dropCarriageReturn_eq_self noReturn, String.ofList_toList]

end ReleaseGate.Text
