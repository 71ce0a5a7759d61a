/-!
# Blank characters

Texts that people type or tools print carry stray white space, and every reader of this library trims it first. A character is
blank when it has Unicode's `White_Space` property: the ASCII blanks, the next-line and no-break characters, the spaces of general
punctuation, the line and paragraph separators and the ideographic space. The zero-width space and the byte-order mark are not.
-/

namespace ReleaseGate.Text

/-- The code points with the `White_Space` property, as closed ranges in increasing order. -/
def blankRanges : List (Nat × Nat) :=
  [(0x9, 0xd), (0x20, 0x20), (0x85, 0x85), (0xa0, 0xa0), (0x1680, 0x1680), (0x2000, 0x200a), (0x2028, 0x2029), (0x202f, 0x202f),
   (0x205f, 0x205f), (0x3000, 0x3000)]

/-- Whether a character lies in one of the closed ranges of a table. -/
def inRanges (table : List (Nat × Nat)) (c : Char) : Bool :=
  table.any fun r => r.1 ≤ c.toNat && c.toNat ≤ r.2

/-- Whether a character is white space. -/
def isBlank (c : Char) : Bool := inRanges blankRanges c

/-- The characters from the first that is not blank. -/
def trimStart (s : List Char) : List Char := s.dropWhile isBlank

/-- The characters up to the last that is not blank. -/
def trimEnd (s : List Char) : List Char := (s.reverse.dropWhile isBlank).reverse

/-- The characters between the first and the last that are not blank. -/
def trim (s : List Char) : List Char := trimEnd (trimStart s)

/-- A text without the white space around it. -/
def trimmed (s : String) : String := String.ofList (trim s.toList)

/-- Whether a text holds nothing but white space. -/
def isBlankText (s : String) : Bool := s.toList.all isBlank

@[simp] theorem trim_nil : trim [] = [] := rfl

@[simp] theorem toList_trimmed (s : String) : (trimmed s).toList = trim s.toList := by
  simp [trimmed]

/-- A text whose first character is not blank has no white space at its start. -/
theorem trimStart_eq_self {s : List Char} (h : ∀ c ∈ s.head?, isBlank c = false) : trimStart s = s := by
  cases s with
  | nil => rfl
  | cons c rest => exact List.dropWhile_cons_of_neg (by simp [h c rfl])

theorem isBlank_head?_trimStart (s : List Char) : ∀ c ∈ (trimStart s).head?, isBlank c = false := by
  intro c hc
  have first := List.head?_dropWhile_not isBlank s
  unfold trimStart at hc
  rw [Option.mem_def.mp hc] at first
  exact first

theorem trimEnd_prefix (s : List Char) : trimEnd s <+: s := by
  unfold trimEnd
  rw [← List.reverse_suffix, List.reverse_reverse]
  exact List.dropWhile_suffix isBlank

/-- A text whose last character is not blank has no white space at its end. -/
theorem trimEnd_eq_self {s : List Char} (h : ∀ c ∈ s.getLast?, isBlank c = false) : trimEnd s = s := by
  have reversed : trimStart s.reverse = s.reverse := by
    apply trimStart_eq_self
    rw [List.head?_reverse]
    exact h
  unfold trimStart at reversed
  rw [trimEnd, reversed, List.reverse_reverse]

theorem isBlank_getLast?_trimEnd (s : List Char) : ∀ c ∈ (trimEnd s).getLast?, isBlank c = false := by
  intro c hc
  unfold trimEnd at hc
  rw [List.getLast?_reverse] at hc
  exact isBlank_head?_trimStart s.reverse c hc

theorem isBlank_head?_trim (s : List Char) : ∀ c ∈ (trim s).head?, isBlank c = false := by
  intro c hc
  obtain ⟨rest, whole⟩ := trimEnd_prefix (trimStart s)
  refine isBlank_head?_trimStart s c ?_
  rw [← whole, List.head?_append]
  show (trim s).head?.or _ = some c
  rw [Option.mem_def.mp hc, Option.some_or]

/-- Trimming leaves a text as it is just when it has no white space at its ends. -/
theorem trim_eq_self_iff (s : List Char) :
    trim s = s ↔ (∀ c ∈ s.head?, isBlank c = false) ∧ ∀ c ∈ s.getLast?, isBlank c = false := by
  constructor
  · intro same
    rw [← same]
    exact ⟨isBlank_head?_trim s, isBlank_getLast?_trimEnd (trimStart s)⟩
  · rintro ⟨first, last⟩
    rw [trim, trimStart_eq_self first, trimEnd_eq_self last]

/-- A text without any white space stays as it is. -/
theorem trim_eq_self_of_solid {s : List Char} (solid : ∀ c ∈ s, isBlank c = false) : trim s = s :=
  (trim_eq_self_iff s).mpr ⟨fun c hc => solid c (List.mem_of_mem_head? hc), fun c hc => solid c (List.mem_of_getLast? hc)⟩

/-- A text without white space around it stays as it is when it is trimmed. -/
@[simp] theorem trim_trim (s : List Char) : trim (trim s) = trim s :=
  (trim_eq_self_iff (trim s)).mpr ⟨isBlank_head?_trim s, isBlank_getLast?_trimEnd (trimStart s)⟩

theorem trim_cons_of_blank {c : Char} (blank : isBlank c = true) (s : List Char) : trim (c :: s) = trim s := by
  simp [trim, trimStart, blank]

/-- White space before a text is trimmed away. -/
theorem trim_append_left {before : List Char} (blank : ∀ c ∈ before, isBlank c = true) (s : List Char) :
    trim (before ++ s) = trim s := by
  induction before with
  | nil => rfl
  | cons c rest ih =>
    obtain ⟨first, later⟩ := List.forall_mem_cons.mp blank
    rw [List.cons_append, trim_cons_of_blank first, ih later]

/-- Where a character that is not blank follows, the white space before it is that of what stands before it. -/
theorem trimStart_append_cons {c : Char} (solid : isBlank c = false) (s rest : List Char) :
    trimStart (s ++ c :: rest) = trimStart s ++ c :: rest := by
  have stops : (c :: rest).dropWhile isBlank = c :: rest := List.dropWhile_cons_of_neg (by rw [solid]; exact Bool.false_ne_true)
  unfold trimStart
  rw [List.dropWhile_append, stops]
  split
  next nothing => rw [List.isEmpty_iff.mp nothing, List.nil_append]
  next => rfl

/-- Where a character that is not blank stands, only the white space behind it is at the end. -/
theorem trimEnd_append_cons {c : Char} (solid : isBlank c = false) (s rest : List Char) :
    trimEnd (s ++ c :: rest) = s ++ c :: trimEnd rest := by
  have turned := trimStart_append_cons solid rest.reverse s.reverse
  unfold trimStart at turned
  unfold trimEnd
  simp [turned]

@[simp] theorem trim_trimStart (s : List Char) : trim (trimStart s) = trim s := by
  rw [trim, trimStart_eq_self (isBlank_head?_trimStart s)]
  rfl

theorem trimEnd_append {after : List Char} (blank : ∀ c ∈ after, isBlank c = true) (s : List Char) :
    trimEnd (s ++ after) = trimEnd s := by
  have reversed : ∀ c ∈ after.reverse, isBlank c = true := fun c hc => blank c (List.mem_reverse.mp hc)
  unfold trimEnd
  rw [List.reverse_append, List.dropWhile_append_of_pos reversed]

/-- White space behind a text is trimmed away. -/
theorem trim_append_right {after : List Char} (blank : ∀ c ∈ after, isBlank c = true) (s : List Char) :
    trim (s ++ after) = trim s := by
  -- trimming starts at the front, where white space behind a text is reached only if the text is blank as well
  induction s with
  | nil =>
    have nothing := trim_append_left blank []
    rw [List.append_nil] at nothing
    exact nothing
  | cons c rest ih =>
    cases first : isBlank c with
    | true => rw [List.cons_append, trim_cons_of_blank first, trim_cons_of_blank first, ih]
    | false =>
      have solid : ∀ tail, trimStart (c :: tail) = c :: tail := fun tail =>
        List.dropWhile_cons_of_neg (by rw [first]; exact Bool.false_ne_true)
      rw [List.cons_append, trim, trim, solid, solid, ← List.cons_append, trimEnd_append blank]

/-- Nothing is left of white space. -/
theorem trim_eq_nil {s : List Char} (blank : ∀ c ∈ s, isBlank c = true) : trim s = [] := by
  have nothing := trim_append_right blank []
  rwa [List.nil_append] at nothing

/-- Nothing but white space follows what is left of a text when the white space at its end is removed. -/
theorem exists_append_trimEnd (s : List Char) : ∃ blank, (∀ c ∈ blank, isBlank c = true) ∧ trimEnd s ++ blank = s := by
  refine ⟨(s.reverse.takeWhile isBlank).reverse, fun c hc => ?_, ?_⟩
  · exact List.all_eq_true.mp List.all_takeWhile c (List.mem_reverse.mp hc)
  · unfold trimEnd
    rw [← List.reverse_append, List.takeWhile_append_dropWhile, List.reverse_reverse]

theorem trim_trimEnd (s : List Char) : trim (trimEnd s) = trim s := by
  obtain ⟨blank, isBlank_blank, whole⟩ := exists_append_trimEnd s
  calc trim (trimEnd s) = trim (trimEnd s ++ blank) := (trim_append_right isBlank_blank _).symm
    _ = trim s := by rw [whole]

/-- What is left of a text when it is trimmed stands in it. -/
theorem isInfix_trim (s : List Char) : trim s <:+: s := by
  have ends := trimEnd_prefix (trimStart s)
  exact ends.isInfix.trans (List.dropWhile_suffix isBlank).isInfix

/-- Something is left of a text that is not all white space. -/
theorem trim_ne_nil {s : List Char} {c : Char} (inside : c ∈ s) (solid : isBlank c = false) : trim s ≠ [] := by
  obtain ⟨before, after, rfl⟩ := List.append_of_mem inside
  rw [trim, trimStart_append_cons solid, trimEnd_append_cons solid]
  exact List.append_ne_nil_of_right_ne_nil _ (List.cons_ne_nil c _)

/-- A text is not blank when a character of it is not. -/
theorem isBlankText_eq_false_iff (s : String) : isBlankText s = false ↔ ∃ c ∈ s.toList, isBlank c = false := by
  simp [isBlankText]

/-- A text is another with white space before and behind it. -/
def IsPadded (s t : String) : Prop :=
  ∃ before after : List Char, (∀ c ∈ before, isBlank c = true) ∧ (∀ c ∈ after, isBlank c = true) ∧
    t.toList = before ++ s.toList ++ after

/-- A text is what is left of it with the white space around it. -/
theorem isPadded_trimmed (s : String) : IsPadded (trimmed s) s := by
  obtain ⟨after, isBlank_after, whole⟩ := exists_append_trimEnd (trimStart s.toList)
  refine ⟨s.toList.takeWhile isBlank, after, List.all_eq_true.mp List.all_takeWhile, isBlank_after, ?_⟩
  calc s.toList = s.toList.takeWhile isBlank ++ trimStart s.toList := List.takeWhile_append_dropWhile.symm
    _ = s.toList.takeWhile isBlank ++ (trimmed s).toList ++ after := by rw [List.append_assoc, toList_trimmed, trim, whole]

/-- Nothing is left of white space that was put around a text. -/
theorem IsPadded.trimmed_eq {s t : String} (h : IsPadded s t) : trimmed t = trimmed s := by
  obtain ⟨before, after, front, back, whole⟩ := h
  unfold trimmed
  rw [whole, trim_append_right back, trim_append_left front]

@[simp] theorem trimmed_trimmed (s : String) : trimmed (trimmed s) = trimmed s := by
  simp [trimmed]

end ReleaseGate.Text
