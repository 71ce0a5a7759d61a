import ReleaseGate.Text.Blank

/-!
# Lines and fields

A text is cut at a separator (`fields`) or into lines (`lines`). A line ends at a newline, which may have a carriage return
before it; text after the last newline is a line of its own, and none is opened by a final newline. `joinWith` puts pieces
together again.
-/

namespace ReleaseGate.Text

/-- The pieces of a list between the elements that satisfy `p`: one more than there are such elements. -/
def splitAtEach {α : Type} (p : α → Bool) : List α → List (List α)
  | [] => [[]]
  | c :: rest =>
    if p c then [] :: splitAtEach p rest
    else
      match splitAtEach p rest with
      | [] => [[c]]
      | piece :: more => (c :: piece) :: more

/-- The pieces of a text between occurrences of a character. -/
def fields (sep : Char) (s : List Char) : List (List Char) := splitAtEach (· == sep) s

/-- A line without the carriage return at its end, if it has one. -/
def dropCarriageReturn (line : List Char) : List Char :=
  match line.getLast? with
  | some '\r' => line.dropLast
  | _ => line

/-- The lines of the pieces between newlines: each piece but the last was ended by a newline, and an empty last piece is no
line. -/
def linesOfPieces : List (List Char) → List (List Char)
  | [] => []
  | [last] => if last.isEmpty then [] else [last]
  | piece :: more => dropCarriageReturn piece :: linesOfPieces more

/-- The lines of a text, without their ends. -/
def lines (s : List Char) : List (List Char) := linesOfPieces (fields '\n' s)

/-- The pieces with a separator between each two. -/
def joinWith (sep : List Char) : List (List Char) → List Char
  | [] => []
  | [piece] => piece
  | piece :: more => piece ++ sep ++ joinWith sep more

/-- What precedes and what follows the first element that satisfies `p`, that element in between. -/
def cutAtFirst {α : Type} (p : α → Bool) : List α → Option (List α × α × List α)
  | [] => none
  | c :: rest =>
    if p c then some ([], c, rest)
    else (cutAtFirst p rest).map fun (before, hit, after) => (c :: before, hit, after)

/-- The rest of a list after a given start. -/
def afterPrefix? {α : Type} [BEq α] : List α → List α → Option (List α)
  | [], s => some s
  | _ :: _, [] => none
  | a :: start, c :: s => if a == c then afterPrefix? start s else none

/-- The start of a list before a given end. -/
def beforeSuffix? (ending s : List Char) : Option (List Char) :=
  (afterPrefix? ending.reverse s.reverse).map List.reverse

/-- For each occurrence of `needle`, read from left to right without overlaps, the character just before it and the text after
it; `skip` characters still belong to the occurrence found last. -/
def occurrencesFrom (needle : List Char) (skip : Nat) (before : Option Char) : List Char → List (Option Char × List Char)
  | [] => []
  | c :: rest =>
    match skip with
    | k + 1 => occurrencesFrom needle k (some c) rest
    | 0 =>
      match afterPrefix? needle (c :: rest) with
      | some after => (before, after) :: occurrencesFrom needle (needle.length - 1) (some c) rest
      | none => occurrencesFrom needle 0 (some c) rest

/-- For each occurrence of `needle` in a text, without overlaps, the character just before it and the text after it. -/
def occurrences (needle s : List Char) : List (Option Char × List Char) := occurrencesFrom needle 0 none s

/-- Whether `needle` stands somewhere in a text. -/
def containsText (needle : List Char) : List Char → Bool
  | [] => needle.isEmpty
  | c :: rest => (afterPrefix? needle (c :: rest)).isSome || containsText needle rest

/-- A text with each occurrence of `target` replaced; `skip` characters still belong to the occurrence replaced last. -/
def replaceFrom (target replacement : List Char) (skip : Nat) : List Char → List Char
  | [] => []
  | c :: rest =>
    match skip with
    | k + 1 => replaceFrom target replacement k rest
    | 0 =>
      match afterPrefix? target (c :: rest) with
      | some _ => replacement ++ replaceFrom target replacement (target.length - 1) rest
      | none => c :: replaceFrom target replacement 0 rest

/-- A text with each occurrence of a target that is not empty, read from left to right without overlaps, replaced. -/
def replaceEach (target replacement s : List Char) : List Char := replaceFrom target replacement 0 s

theorem splitAtEach_ne_nil {α : Type} (p : α → Bool) (s : List α) : splitAtEach p s ≠ [] := by
  cases s with
  | nil => simp [splitAtEach]
  | cons c rest =>
    simp only [splitAtEach]
    split
    · simp
    · split <;> simp

theorem splitAtEach_append {α : Type} {p : α → Bool} {c : α} (sep : p c = true) (a b : List α) :
    splitAtEach p (a ++ c :: b) = splitAtEach p a ++ splitAtEach p b := by
  induction a with
  | nil => simp [splitAtEach, sep]
  | cons d a ih =>
    rw [List.cons_append, splitAtEach, splitAtEach, ih]
    by_cases hd : p d = true
    · simp [hd]
    · obtain ⟨piece, more, e⟩ := List.exists_cons_of_ne_nil (splitAtEach_ne_nil p a)
      simp [hd, e]

theorem splitAtEach_eq_singleton {α : Type} {p : α → Bool} {s : List α} (h : ∀ c ∈ s, p c = false) : splitAtEach p s = [s] := by
  induction s with
  | nil => rfl
  | cons c rest ih =>
    obtain ⟨first, later⟩ := List.forall_mem_cons.mp h
    simp [splitAtEach, first, ih later]

theorem fields_append (sep : Char) (a b : List Char) : fields sep (a ++ sep :: b) = fields sep a ++ fields sep b :=
  @splitAtEach_append Char (· == sep) sep (beq_self_eq_true sep) a b

theorem fields_eq_singleton {sep : Char} {s : List Char} (h : sep ∉ s) : fields sep s = [s] := by
  refine splitAtEach_eq_singleton fun c hc => beq_false_of_ne ?_
  rintro rfl
  exact h hc

/-- The pieces of a list hold what is in it and does not separate. -/
theorem mem_of_mem_splitAtEach {α : Type} {p : α → Bool} {s piece : List α} {c : α} (h : piece ∈ splitAtEach p s) (hc : c ∈ piece) :
    c ∈ s ∧ p c = false := by
  induction s generalizing piece with
  | nil =>
    obtain rfl := List.mem_singleton.mp h
    cases hc
  | cons d rest ih =>
    have later : ∀ {q}, q ∈ splitAtEach p rest → c ∈ q → c ∈ d :: rest ∧ p c = false :=
      fun hq inside => ⟨List.mem_cons_of_mem d (ih hq inside).1, (ih hq inside).2⟩
    rw [splitAtEach] at h
    split at h
    next =>
      rcases List.mem_cons.mp h with rfl | more
      · cases hc
      · exact later more hc
    next plain =>
      obtain ⟨first, more, pieces⟩ := List.exists_cons_of_ne_nil (splitAtEach_ne_nil p rest)
      rw [pieces] at h later
      rcases List.mem_cons.mp h with rfl | after
      · rcases List.mem_cons.mp hc with rfl | inside
        · exact ⟨List.mem_cons_self, Bool.eq_false_iff.mpr plain⟩
        · exact later List.mem_cons_self inside
      · exact later (List.mem_cons_of_mem first after) hc

theorem joinWith_cons_cons (sep : Char) (piece next : List Char) (more : List (List Char)) :
    joinWith [sep] (piece :: next :: more) = piece ++ sep :: joinWith [sep] (next :: more) := by
  simp [joinWith]

/-- The pieces of a text, with the separator between each two, are the text. -/
theorem joinWith_fields (sep : Char) (s : List Char) : joinWith [sep] (fields sep s) = s := by
  unfold fields
  induction s with
  | nil => rfl
  | cons c rest ih =>
    obtain ⟨piece, more, cut⟩ := List.exists_cons_of_ne_nil (splitAtEach_ne_nil (· == sep) rest)
    rw [cut] at ih
    rw [splitAtEach, cut]
    by_cases separator : (c == sep) = true
    · rw [if_pos separator, joinWith_cons_cons, ih, eq_of_beq separator]
      rfl
    · rw [if_neg separator]
      cases more with
      | nil => exact congrArg (c :: ·) ih
      | cons next more => exact congrArg (c :: ·) ih

/-- Pieces without the separator are read back from what is put together of them. -/
theorem fields_joinWith {sep : Char} {pieces : List (List Char)} (some_piece : pieces ≠ []) (plain : ∀ p ∈ pieces, sep ∉ p) :
    fields sep (joinWith [sep] pieces) = pieces := by
  induction pieces with
  | nil => exact absurd rfl some_piece
  | cons piece more ih =>
    obtain ⟨first, later⟩ := List.forall_mem_cons.mp plain
    cases more with
    | nil => exact fields_eq_singleton first
    | cons next more =>
      rw [joinWith_cons_cons, fields_append, fields_eq_singleton first, ih (List.cons_ne_nil next more) later]
      rfl

theorem dropCarriageReturn_eq_self {line : List Char} (h : '\r' ∉ line.getLast?) : dropCarriageReturn line = line := by
  unfold dropCarriageReturn
  split
  next last => exact absurd last h
  next => rfl

theorem isPrefix_dropCarriageReturn (line : List Char) : dropCarriageReturn line <+: line := by
  unfold dropCarriageReturn
  split
  next => exact List.dropLast_prefix line
  next => exact List.prefix_refl line

/-- Every piece but the last is ended, so those before others are. -/
theorem linesOfPieces_append (ended : List (List Char)) {more : List (List Char)} (some : more ≠ []) :
    linesOfPieces (ended ++ more) = ended.map dropCarriageReturn ++ linesOfPieces more := by
  induction ended with
  | nil => rfl
  | cons piece rest ih =>
    obtain ⟨next, after, e⟩ := List.exists_cons_of_ne_nil (List.append_ne_nil_of_right_ne_nil rest some)
    rw [List.cons_append, List.map_cons, List.cons_append, ← ih, e]
    rfl

/-- A newline ends the lines before it, whatever they are, and the lines after it begin anew. -/
theorem lines_append_newline (before rest : List Char) :
    lines (before ++ '\n' :: rest) = (fields '\n' before).map dropCarriageReturn ++ lines rest := by
  unfold lines
  rw [fields_append]
  exact linesOfPieces_append _ (splitAtEach_ne_nil _ rest)

/-- A line that is ended, and the lines after it. -/
theorem lines_append {line : List Char} (h : '\n' ∉ line) (rest : List Char) :
    lines (line ++ '\n' :: rest) = dropCarriageReturn line :: lines rest := by
  rw [lines_append_newline, fields_eq_singleton h]
  rfl

/-- A text with something on it and without a newline is one line. -/
theorem lines_eq_singleton {line : List Char} (h : '\n' ∉ line) (something : line ≠ []) : lines line = [line] := by
  unfold lines
  rw [fields_eq_singleton h, linesOfPieces, if_neg (by simpa using something)]

/-- The lines of pieces are pieces, without the carriage returns that may end them. -/
theorem exists_of_mem_linesOfPieces {line : List Char} {pieces : List (List Char)} (h : line ∈ linesOfPieces pieces) :
    ∃ piece ∈ pieces, line ⊆ piece := by
  fun_induction linesOfPieces pieces with
  | case1 => cases h
  | case2 last empty => cases h
  | case3 last => exact ⟨last, List.mem_cons_self, by simp [List.mem_singleton.mp h]⟩
  | case4 piece more _ ih =>
    rcases List.mem_cons.mp h with rfl | later
    · exact ⟨piece, List.mem_cons_self, (isPrefix_dropCarriageReturn piece).subset⟩
    · obtain ⟨found, there, inside⟩ := ih later
      exact ⟨found, List.mem_cons_of_mem piece there, inside⟩

/-- The lines of a text hold what is in it, but no newline. -/
theorem mem_of_mem_lines {s line : List Char} {c : Char} (h : line ∈ lines s) (hc : c ∈ line) : c ∈ s ∧ c ≠ '\n' := by
  obtain ⟨piece, there, inside⟩ := exists_of_mem_linesOfPieces h
  obtain ⟨among, plain⟩ := mem_of_mem_splitAtEach there (inside hc)
  exact ⟨among, by simpa using plain⟩

/-- The first element with a property is found after elements that do not have it. -/
theorem cutAtFirst_append {α : Type} {p : α → Bool} {before : List α} (without : ∀ a ∈ before, p a = false) {hit : α}
    (has : p hit = true) (after : List α) : cutAtFirst p (before ++ hit :: after) = some (before, hit, after) := by
  induction before with
  | nil => simp [cutAtFirst, has]
  | cons a before ih =>
    obtain ⟨first, later⟩ := List.forall_mem_cons.mp without
    simp [cutAtFirst, first, ih later]

/-- What is found first has the property, and nothing before it does. -/
theorem cutAtFirst_eq_some {α : Type} {p : α → Bool} {s before after : List α} {hit : α}
    (h : cutAtFirst p s = some (before, hit, after)) : s = before ++ hit :: after ∧ (∀ a ∈ before, p a = false) ∧ p hit = true := by
  induction s generalizing before with
  | nil => cases h
  | cons c s ih =>
    rw [cutAtFirst] at h
    split at h
    next has =>
      simp only [Option.some.injEq, Prod.mk.injEq] at h
      obtain ⟨rfl, rfl, rfl⟩ := h
      exact ⟨rfl, by simp, has⟩
    next without =>
      obtain ⟨⟨b, d, a⟩, found, same⟩ := Option.map_eq_some_iff.mp h
      simp only [Prod.mk.injEq] at same
      obtain ⟨rfl, rfl, rfl⟩ := same
      obtain ⟨rfl, later, has⟩ := ih found
      exact ⟨rfl, List.forall_mem_cons.mpr ⟨by simpa using without, later⟩, has⟩

/-- Nothing is found where no element has the property. -/
theorem cutAtFirst_eq_none {α : Type} {p : α → Bool} {s : List α} (without : ∀ a ∈ s, p a = false) : cutAtFirst p s = none := by
  induction s with
  | nil => rfl
  | cons a s ih =>
    obtain ⟨first, later⟩ := List.forall_mem_cons.mp without
    simp [cutAtFirst, first, ih later]

/-- What follows a given start, put after that start, is the list again. -/
theorem eq_append_of_afterPrefix? {α : Type} [BEq α] [LawfulBEq α] {start s rest : List α}
    (h : afterPrefix? start s = some rest) : s = start ++ rest := by
  induction start generalizing s with
  | nil => simpa [afterPrefix?] using h
  | cons a start ih =>
    cases s with
    | nil => simp [afterPrefix?] at h
    | cons c s =>
      simp only [afterPrefix?] at h
      split at h
      · next hac =>
        rw [ih h, eq_of_beq hac]
        rfl
      · simp at h

@[simp] theorem afterPrefix?_append {α : Type} [BEq α] [LawfulBEq α] (start rest : List α) :
    afterPrefix? start (start ++ rest) = some rest := by
  induction start with
  | nil => rfl
  | cons a start ih => simpa [afterPrefix?] using ih

theorem isSome_afterPrefix?_iff {α : Type} [BEq α] [LawfulBEq α] (start s : List α) :
    (afterPrefix? start s).isSome = true ↔ start <+: s := by
  constructor
  · intro h
    obtain ⟨rest, after⟩ := Option.isSome_iff_exists.mp h
    exact ⟨rest, (eq_append_of_afterPrefix? after).symm⟩
  · rintro ⟨rest, rfl⟩
    rw [afterPrefix?_append]
    rfl

/-- What precedes a given end of a text is what the text is put together from with that end. -/
theorem beforeSuffix?_eq_some_iff (ending s stem : List Char) : beforeSuffix? ending s = some stem ↔ s = stem ++ ending := by
  constructor
  · intro h
    obtain ⟨rest, after, rfl⟩ := Option.map_eq_some_iff.mp h
    have reversed := congrArg List.reverse (eq_append_of_afterPrefix? after)
    simpa using reversed
  · rintro rfl
    rw [beforeSuffix?, List.reverse_append, afterPrefix?_append]
    simp

theorem beforeSuffix?_eq_none_iff (ending s : List Char) : beforeSuffix? ending s = none ↔ ¬ending <:+ s := by
  rw [Option.eq_none_iff_forall_ne_some]
  constructor
  · rintro nowhere ⟨stem, rfl⟩
    exact nowhere stem ((beforeSuffix?_eq_some_iff ending _ stem).mpr rfl)
  · rintro other stem found
    exact other ⟨stem, ((beforeSuffix?_eq_some_iff ending s stem).mp found).symm⟩

/-- A text that is searched for is found just when it stands somewhere, with a text before it and one after. -/
theorem containsText_iff (needle s : List Char) : containsText needle s = true ↔ needle <:+: s := by
  induction s with
  | nil => simp [containsText, List.infix_nil]
  | cons c rest ih => rw [containsText, Bool.or_eq_true, isSome_afterPrefix?_iff, ih, List.infix_cons_iff]

/-- The text of the pieces with a separator between each two. -/
def joinText (sep : String) (pieces : List String) : String :=
  String.ofList (joinWith sep.toList (pieces.map String.toList))

theorem joinText_eq_intercalate (sep : String) (pieces : List String) : joinText sep pieces = sep.intercalate pieces := by
  induction pieces with
  | nil => simp [joinText, joinWith]
  | cons piece more ih =>
    cases more with
    | nil => simp [joinText, joinWith]
    | cons next more =>
      rw [String.intercalate_cons_cons, ← ih]
      simp [joinText, joinWith, String.ofList_append, String.append_assoc]

/-- The lines of a text, as texts. -/
def linesOf (s : String) : List String := (lines s.toList).map String.ofList

/-- A text without a given start, when it has it. -/
def withoutStart? (start s : String) : Option String :=
  (afterPrefix? start.toList s.toList).map String.ofList

/-- What follows a given start of a text is what the text is put together from with that start. -/
theorem withoutStart?_eq_some_iff (start s rest : String) : withoutStart? start s = some rest ↔ s = start ++ rest := by
  constructor
  · intro h
    obtain ⟨after, ha, rfl⟩ := Option.map_eq_some_iff.mp h
    rw [← String.toList_inj, String.toList_append, String.toList_ofList]
    exact eq_append_of_afterPrefix? ha
  · rintro rfl
    rw [withoutStart?, String.toList_append, afterPrefix?_append]
    simp

/-- A text with each occurrence of `target` replaced. -/
def replaced (target replacement s : String) : String :=
  String.ofList (replaceEach target.toList replacement.toList s.toList)

end ReleaseGate.Text
