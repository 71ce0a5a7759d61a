import ReleaseGate.Proofs.Text.Lines
import ReleaseGate.Verifier.Fences

/-!
# Blocks in the lines of a text

A fence opens a block, and a line that is a fence of the same marker, at least as long and with nothing behind it, closes it. Lines
are `Balanced` when they are plain lines and whole blocks, one after another; otherwise a fence among them leaves a block open
(`LeavesOpen`). The check reads line by line and keeps the block that is open; `Describes` says what that tells of the lines read so
far, and every line preserves it (`describes_step`). So a text has no problem just when its lines are balanced, and else the one
problem names the fence that leaves a block open (`problems_by_blocks`).

A line that begins with a span of code in three backticks or more is a fence as well (`span_opens`), although in Markdown no backtick
may stand behind the run that opens a block.
-/

namespace ReleaseGate.Markdown

open Text

/-! ## Fences as they are written -/

/-- A fence as it is written on a line: white space of at most three bytes, three or more of a backtick or a tilde, and a rest that
does not go on with the marker. -/
structure Fence.IsOn (f : Fence) (line : List Char) : Prop where
  marked : f.marker = '\x60' ∨ f.marker = '~'
  long : 3 ≤ f.length
  ends : f.rest.head? ≠ some f.marker
  written : ∃ indent, (∀ c ∈ indent, isBlank c = true) ∧ utf8Size indent ≤ 3 ∧
    line = indent ++ (List.replicate f.length f.marker ++ f.rest)

/-- A line closes the block that a fence opened: it is a fence of the same marker, at least as long, and nothing but white space
follows. -/
def Fence.ClosedBy (opening : Fence) (line : List Char) : Prop :=
  ∃ f : Fence, f.IsOn line ∧ f.marker = opening.marker ∧ opening.length ≤ f.length ∧ ∀ c ∈ f.rest, isBlank c = true

theorem isMarker_iff (c : Char) : isMarker c = true ↔ c = '\x60' ∨ c = '~' := by
  simp [isMarker]

theorem isBlank_of_isMarker {c : Char} (h : c = '\x60' ∨ c = '~') : isBlank c = false := by
  rcases h with rfl | rfl <;> decide

/-- The characters with a property at the start of a text end where one without it stands. -/
theorem takeWhile_dropWhile_append {p : Char → Bool} {run : List Char} (rest : List Char) (each : ∀ c ∈ run, p c = true)
    (stops : ∀ c ∈ rest.head?, p c = false) :
    (run ++ rest).takeWhile p = run ∧ (run ++ rest).dropWhile p = rest := by
  rw [List.takeWhile_append_of_pos each, List.dropWhile_append_of_pos each]
  cases rest with
  | nil => simp
  | cons c rest => simp [stops c rfl]

/-- What a text begins with of a character is a run of it, and what follows does not go on with it. -/
theorem run_append_drop (c : Char) (s : List Char) :
    let n := (s.takeWhile (· == c)).length
    List.replicate n c ++ s.drop n = s ∧ (s.drop n).head? ≠ some c := by
  have run : List.replicate (s.takeWhile (· == c)).length c = s.takeWhile (· == c) :=
    (List.eq_replicate_iff.mpr ⟨rfl, fun d hd => by simpa using List.all_eq_true.mp List.all_takeWhile d hd⟩).symm
  have rest : s.drop (s.takeWhile (· == c)).length = s.dropWhile (· == c) := by
    calc s.drop (s.takeWhile (· == c)).length
        = (s.takeWhile (· == c) ++ s.dropWhile (· == c)).drop (s.takeWhile (· == c)).length := by
          rw [List.takeWhile_append_dropWhile]
      _ = s.dropWhile (· == c) := List.drop_left
  dsimp only
  rw [run, rest, List.takeWhile_append_dropWhile]
  refine ⟨rfl, fun same => ?_⟩
  have first := List.head?_dropWhile_not (· == c) s
  simp [same] at first

theorem isOn_of_fence? {line : List Char} {f : Fence} (h : fence? line = some f) : f.IsOn line := by
  unfold fence? at h
  dsimp only at h
  split at h
  next => cases h
  next narrow =>
    split at h
    next => cases h
    next c _ _ =>
      split at h
      next counts =>
        obtain ⟨marker, long⟩ := Bool.and_eq_true_iff.mp counts
        obtain ⟨whole, ends⟩ := run_append_drop c (trimStart line)
        obtain rfl := Option.some.inj h
        refine ⟨(isMarker_iff c).mp marker, of_decide_eq_true long, ends, line.takeWhile isBlank, ?_, Nat.not_lt.mp narrow, ?_⟩
        · exact List.all_eq_true.mp List.all_takeWhile
        · rw [whole, trimStart, List.takeWhile_append_dropWhile]
      next => cases h

theorem Fence.IsOn.fence?_eq {line : List Char} {f : Fence} (h : f.IsOn line) : fence? line = some f := by
  obtain ⟨marker, long, ends, indent, blank, narrow, rfl⟩ := h
  obtain ⟨k, length⟩ : ∃ k, f.length = k + 1 := ⟨f.length - 1, by omega⟩
  have body : List.replicate f.length f.marker ++ f.rest = f.marker :: (List.replicate k f.marker ++ f.rest) := by
    rw [length, List.replicate_succ, List.cons_append]
  obtain ⟨taken, left⟩ := takeWhile_dropWhile_append (List.replicate f.length f.marker ++ f.rest) blank
    (by simp [body, isBlank_of_isMarker marker])
  have each : ∀ c ∈ List.replicate f.length f.marker, (c == f.marker) = true := by simp
  obtain ⟨run, -⟩ := takeWhile_dropWhile_append f.rest each
    (by rintro c first; simpa using fun same : c = f.marker => ends (same ▸ first))
  have indented : ¬utf8Size indent > maxIndent := Nat.not_lt.mpr narrow
  have counts : (isMarker f.marker && decide (minLength ≤ f.length)) = true :=
    Bool.and_eq_true_iff.mpr ⟨(isMarker_iff _).mpr marker, decide_eq_true long⟩
  unfold fence?
  dsimp only
  rw [taken, if_neg indented, trimStart, left, body]
  dsimp only
  rw [← body, run, List.length_replicate, if_pos counts, List.drop_left' List.length_replicate]

/-- A line is read as the fence that is written on it. -/
theorem fence?_eq_some_iff {line : List Char} {f : Fence} : fence? line = some f ↔ f.IsOn line :=
  ⟨isOn_of_fence?, Fence.IsOn.fence?_eq⟩

theorem fence?_eq_none_iff {line : List Char} : fence? line = none ↔ ∀ f : Fence, ¬f.IsOn line := by
  simp only [Option.eq_none_iff_forall_ne_some, ne_eq, fence?_eq_some_iff]

theorem Fence.not_isOn_nil (f : Fence) : ¬f.IsOn [] := by
  rintro ⟨-, long, -, indent, -, -, written⟩
  have nothing := congrArg List.length written
  simp at nothing
  omega

theorem closes_eq_true_iff {f opening : Fence} :
    f.closes opening = true ↔ f.marker = opening.marker ∧ opening.length ≤ f.length ∧ ∀ c ∈ f.rest, isBlank c = true := by
  simp [Fence.closes, and_assoc]

instance (f : Fence) (line : List Char) : Decidable (f.IsOn line) := decidable_of_iff (fence? line = some f) fence?_eq_some_iff

instance (opening : Fence) (line : List Char) : Decidable (opening.ClosedBy line) :=
  decidable_of_iff (∃ f ∈ fence? line, f.closes opening = true) (by simp [Fence.ClosedBy, fence?_eq_some_iff, closes_eq_true_iff])

/-! ## One line -/

/-- A line that is no fence leaves what is open as it is. -/
theorem step_of_plain {line : List Char} (plain : ∀ f : Fence, ¬f.IsOn line) (opened : Option OpenBlock) (n : Nat) :
    step opened n line = opened := by
  unfold step
  rw [fence?_eq_none_iff.mpr plain]

/-- Outside every block, a fence opens one. -/
theorem step_none {line : List Char} {f : Fence} (opens : f.IsOn line) (n : Nat) : step none n line = some ⟨n, f⟩ := by
  unfold step
  rw [opens.fence?_eq]

theorem step_of_closedBy {b : OpenBlock} {line : List Char} (closes : b.fence.ClosedBy line) (n : Nat) :
    step (some b) n line = none := by
  obtain ⟨f, written, same⟩ := closes
  unfold step
  rw [written.fence?_eq]
  exact if_pos (closes_eq_true_iff.mpr same)

/-- Inside a block, a line that does not close it changes nothing, also when it is a fence. -/
theorem step_of_not_closedBy {b : OpenBlock} {line : List Char} (inside : ¬b.fence.ClosedBy line) (n : Nat) :
    step (some b) n line = some b := by
  unfold step
  cases read : fence? line with
  | none => rfl
  | some f => exact if_neg fun same => inside ⟨f, isOn_of_fence? read, closes_eq_true_iff.mp same⟩

/-! ## Blocks -/

/-- Lines that are plain lines and whole blocks, one after another. A block begins with a fence and ends with the first line that
closes it. -/
inductive Balanced : List (List Char) → Prop where
  | nil : Balanced []
  | plain {line : List Char} {later : List (List Char)} (noFence : ∀ f : Fence, ¬f.IsOn line) (balanced : Balanced later) :
      Balanced (line :: later)
  | block {opening : Fence} {first last : List Char} {inner later : List (List Char)} (opens : opening.IsOn first)
      (inside : ∀ l ∈ inner, ¬opening.ClosedBy l) (closes : opening.ClosedBy last) (balanced : Balanced later) :
      Balanced (first :: inner ++ last :: later)

/-- Lines of which a fence opens a block that none of the later ones closes; those before it are balanced. -/
inductive LeavesOpen (opening : Fence) (before : List (List Char)) : List (List Char) → Prop where
  | intro {first : List Char} {after : List (List Char)} (balanced : Balanced before) (opens : opening.IsOn first)
      (inside : ∀ l ∈ after, ¬opening.ClosedBy l) : LeavesOpen opening before (before ++ first :: after)

theorem Balanced.append {a b : List (List Char)} (ha : Balanced a) (hb : Balanced b) : Balanced (a ++ b) := by
  induction ha with
  | nil => exact hb
  | plain noFence _ ih => exact .plain noFence ih
  | @block opening first last inner later opens inside closes _ ih =>
    have whole : first :: inner ++ last :: later ++ b = first :: inner ++ last :: (later ++ b) := by simp
    rw [whole]
    exact .block opens inside closes ih

/-! ## All lines -/

theorem openAfter_append (opened : Option OpenBlock) (n : Nat) (a b : List (List Char)) :
    openAfter opened n (a ++ b) = openAfter (openAfter opened n a) (n + a.length) b := by
  induction a generalizing opened n with
  | nil => rfl
  | cons line a ih =>
    rw [List.cons_append, openAfter, openAfter, ih, List.length_cons, Nat.add_right_comm, Nat.add_assoc]

theorem openAfter_of_not_closedBy {b : OpenBlock} {ls : List (List Char)} (inside : ∀ l ∈ ls, ¬b.fence.ClosedBy l) (n : Nat) :
    openAfter (some b) n ls = some b := by
  induction ls generalizing n with
  | nil => rfl
  | cons line ls ih =>
    obtain ⟨first, later⟩ := List.forall_mem_cons.mp inside
    rw [openAfter, step_of_not_closedBy first, ih later]

/-- Balanced lines leave nothing open. -/
theorem Balanced.openAfter_eq {ls : List (List Char)} (h : Balanced ls) (n : Nat) : openAfter none n ls = none := by
  induction h generalizing n with
  | nil => rfl
  | plain noFence _ ih => rw [openAfter, step_of_plain noFence, ih]
  | block opens inside closes _ ih =>
    rw [List.cons_append, openAfter, step_none opens, openAfter_append, openAfter_of_not_closedBy inside, openAfter,
      step_of_closedBy closes, ih]

theorem LeavesOpen.openAfter_eq {opening : Fence} {before ls : List (List Char)} (h : LeavesOpen opening before ls) (start : Nat) :
    openAfter none start ls = some ⟨start + before.length, opening⟩ := by
  obtain ⟨balanced, opens, inside⟩ := h
  rw [openAfter_append, balanced.openAfter_eq, openAfter, step_none opens, openAfter_of_not_closedBy inside]

/-- What the open block tells of the lines that were read, of which the first has the number `start`: none is open after balanced
lines, and one that is open was left so by the fence on its line. -/
def Describes (start : Nat) (opened : Option OpenBlock) (read : List (List Char)) : Prop :=
  match opened with
  | none => Balanced read
  | some b => ∃ before, LeavesOpen b.fence before read ∧ b.line = start + before.length

/-- What is open goes on telling of the lines read when one more is read. -/
theorem describes_step {start : Nat} {opened : Option OpenBlock} {read : List (List Char)} (h : Describes start opened read)
    (line : List Char) : Describes start (step opened (start + read.length) line) (read ++ [line]) := by
  cases opened with
  | none =>
    by_cases plain : ∀ f : Fence, ¬f.IsOn line
    · rw [step_of_plain plain]
      exact Balanced.append h (.plain plain .nil)
    · obtain ⟨f, written⟩ : ∃ f : Fence, f.IsOn line := by simpa using plain
      rw [step_none written]
      exact ⟨read, .intro h written nofun, rfl⟩
  | some b =>
    obtain ⟨before, ⟨balanced, opens, inside⟩, number⟩ := h
    rw [List.append_assoc, List.cons_append]
    by_cases closes : b.fence.ClosedBy line
    · rw [step_of_closedBy closes]
      exact balanced.append (.block opens inside closes .nil)
    · rw [step_of_not_closedBy closes]
      exact ⟨before, .intro balanced opens (List.forall_mem_append.mpr ⟨inside, List.forall_mem_singleton.mpr closes⟩), number⟩

theorem describes_openAfter {start : Nat} {opened : Option OpenBlock} {read : List (List Char)} (h : Describes start opened read)
    (ls : List (List Char)) : Describes start (openAfter opened (start + read.length) ls) (read ++ ls) := by
  induction ls generalizing opened read with
  | nil => rwa [List.append_nil]
  | cons line ls ih =>
    have next := ih (describes_step h line)
    rwa [List.length_append, List.append_assoc] at next

/-- Lines that are not balanced leave a block open. -/
theorem balanced_or_leavesOpen (ls : List (List Char)) : Balanced ls ∨ ∃ opening before, LeavesOpen opening before ls := by
  have nothing : Describes 0 none [] := Balanced.nil
  have told : Describes 0 (openAfter none 0 ls) ls := describes_openAfter nothing ls
  cases state : openAfter none 0 ls with
  | none => exact .inl (by rwa [state] at told)
  | some b =>
    rw [state] at told
    obtain ⟨before, leaves, -⟩ := told
    exact .inr ⟨b.fence, before, leaves⟩

theorem openAfter_eq_none_iff {ls : List (List Char)} (start : Nat) : openAfter none start ls = none ↔ Balanced ls := by
  refine ⟨fun nothing => ?_, fun balanced => balanced.openAfter_eq start⟩
  rcases balanced_or_leavesOpen ls with balanced | ⟨opening, before, leaves⟩
  · exact balanced
  · rw [leaves.openAfter_eq] at nothing
    cases nothing

instance (ls : List (List Char)) : Decidable (Balanced ls) := decidable_of_iff (openAfter none 0 ls = none) (openAfter_eq_none_iff 0)

theorem problems_eq_nil_iff {text : List Char} : problems text = [] ↔ Balanced (lines text) := by
  rw [problems, List.map_eq_nil_iff, Option.toList_eq_nil_iff, openAfter_eq_none_iff]

theorem LeavesOpen.problems_eq {opening : Fence} {before : List (List Char)} {text : List Char}
    (h : LeavesOpen opening before (lines text)) :
    problems text =
      ["code fence " ++ String.ofList (List.replicate opening.length opening.marker) ++ " opened on line " ++
        toString (before.length + 1) ++ " is never closed"] := by
  rw [problems, h.openAfter_eq, Nat.add_comm]
  rfl

/-! ## Texts one after another -/

/-- White space at the end of a line is no part of what makes it a fence. -/
theorem Fence.IsOn.concat {f : Fence} {line : List Char} (h : f.IsOn line) {c : Char} (blank : isBlank c = true) :
    Fence.IsOn { f with rest := f.rest ++ [c] } (line ++ [c]) := by
  obtain ⟨marked, long, ends, indent, white, narrow, rfl⟩ := h
  refine ⟨marked, long, ?_, indent, white, narrow, by simp⟩
  cases rest : f.rest with
  | nil =>
    intro first
    obtain rfl : c = f.marker := by simpa using first
    rw [isBlank_of_isMarker marked] at blank
    cases blank
  | cons d more => simpa [rest] using ends

theorem Fence.IsOn.of_concat {f : Fence} {line : List Char} {c : Char} (blank : isBlank c = true) (h : f.IsOn (line ++ [c])) :
    ∃ rest, f.rest = rest ++ [c] ∧ Fence.IsOn { f with rest } line := by
  obtain ⟨marked, long, ends, indent, white, narrow, written⟩ := h
  rcases List.eq_nil_or_concat f.rest with nothing | ⟨rest, d, whole⟩
  · obtain ⟨k, length⟩ : ∃ k, f.length = k + 1 := ⟨f.length - 1, by omega⟩
    rw [nothing, List.append_nil, length, List.replicate_succ', ← List.append_assoc] at written
    obtain ⟨-, same⟩ := List.append_inj' written rfl
    obtain rfl : c = f.marker := by simpa using same
    rw [isBlank_of_isMarker marked] at blank
    cases blank
  · rw [List.concat_eq_append] at whole
    rw [whole, ← List.append_assoc, ← List.append_assoc] at written
    obtain ⟨front, same⟩ := List.append_inj' written rfl
    obtain rfl : c = d := by simpa using same
    refine ⟨rest, whole, marked, long, fun first => ends ?_, indent, white, narrow, by rw [front, List.append_assoc]⟩
    rw [whole, List.head?_append, show rest.head? = some f.marker from first, Option.some_or]

/-- A last line may lose white space at its end. -/
theorem Balanced.of_concat {ls : List (List Char)} {line : List Char} {c : Char} (blank : isBlank c = true)
    (h : Balanced (ls ++ [line ++ [c]])) : Balanced (ls ++ [line]) := by
  rw [← openAfter_eq_none_iff 0, openAfter_append] at h ⊢
  cases opened : openAfter none 0 ls with
  | none =>
    have plain : ∀ f : Fence, ¬f.IsOn (line ++ [c]) := by
      intro f written
      rw [opened, openAfter, step_none written] at h
      cases h
    rw [openAfter, step_of_plain fun f written => plain _ (written.concat blank), openAfter]
  | some b =>
    have closes : b.fence.ClosedBy (line ++ [c]) := by
      refine Decidable.byContradiction fun inside => ?_
      rw [opened, openAfter, step_of_not_closedBy inside] at h
      cases h
    obtain ⟨f, written, marker, long, rest⟩ := closes
    obtain ⟨before, whole, shorter⟩ := written.of_concat blank
    have closes' : b.fence.ClosedBy line := ⟨_, shorter, marker, long, fun d hd => rest d (by simp [whole, hd])⟩
    rw [openAfter, step_of_closedBy closes', openAfter]

theorem Balanced.of_returned {ls : List (List Char)} {line : List Char} (h : Balanced (ls ++ [line])) :
    Balanced (ls ++ [dropCarriageReturn line]) := by
  unfold dropCarriageReturn
  split
  next last =>
    obtain ⟨before, rfl⟩ := List.getLast?_eq_some_iff.mp last
    rw [List.dropLast_concat]
    exact h.of_concat rfl
  next => exact h

/-- The lines of a text stay balanced when its last line is ended. -/
theorem Balanced.ended {text : List Char} (h : Balanced (lines text)) : Balanced ((fields '\n' text).map dropCarriageReturn) := by
  obtain ⟨ended, last, pieces⟩ : ∃ ended last, fields '\n' text = ended ++ [last] :=
    ⟨_, _, (List.dropLast_concat_getLast (splitAtEach_ne_nil _ text)).symm⟩
  rw [lines, pieces, linesOfPieces_append ended (List.cons_ne_nil last []), linesOfPieces] at h
  rw [pieces, List.map_append]
  split at h
  next empty =>
    rw [List.append_nil] at h
    rw [List.isEmpty_iff.mp empty]
    exact h.append (.plain Fence.not_isOn_nil .nil)
  next => exact h.of_returned

theorem problems_join {text other : List Char} (first : problems text = []) (second : problems other = []) :
    problems (text ++ '\n' :: other) = [] := by
  rw [problems_eq_nil_iff] at first second ⊢
  rw [lines_append_newline]
  exact first.ended.append second

/-- A text has no problem just when its lines are balanced, and the lines of any other leave a block open: then its one problem names
the fence that does and the line of that fence. So two texts without a problem, one after the other with a newline in between, have
none. -/
theorem problems_by_blocks (text : List Char) :
    (problems text = [] ↔ Balanced (lines text)) ∧
      (¬Balanced (lines text) → ∃ opening before, LeavesOpen opening before (lines text)) ∧
      (∀ opening before, LeavesOpen opening before (lines text) →
        problems text =
          ["code fence " ++ String.ofList (List.replicate opening.length opening.marker) ++ " opened on line " ++
            toString (before.length + 1) ++ " is never closed"]) ∧
      ∀ other, problems text = [] → problems other = [] → problems (text ++ '\n' :: other) = [] :=
  ⟨problems_eq_nil_iff, (balanced_or_leavesOpen (lines text)).resolve_left, fun _ _ leaves => leaves.problems_eq,
    fun _ => problems_join⟩

/-! ## Spans of code at the start of a line -/

/-- A line that begins with a span of code: with three or more backticks, and another one later on. -/
structure BeginsWithSpan (n : Nat) (rest line : List Char) : Prop where
  long : 3 ≤ n
  ends : rest.head? ≠ some '\x60'
  later : '\x60' ∈ rest
  written : line = List.replicate n '\x60' ++ rest

theorem BeginsWithSpan.isOn {n : Nat} {rest line : List Char} (h : BeginsWithSpan n rest line) :
    Fence.IsOn ⟨'\x60', n, rest⟩ line :=
  ⟨.inl rfl, h.long, h.ends, [], nofun, Nat.zero_le 3, h.written⟩

/-- A fence that other lines follow is balanced with them just when a first line closes it and what follows that is balanced. -/
theorem balanced_cons_iff {opening : Fence} {first : List Char} (opens : opening.IsOn first) (after : List (List Char)) :
    Balanced (first :: after) ↔
      ∃ inner last later, after = inner ++ last :: later ∧ (∀ l ∈ inner, ¬opening.ClosedBy l) ∧ opening.ClosedBy last ∧
        Balanced later := by
  constructor
  · intro h
    cases h with
    | plain noFence _ => exact absurd opens (noFence opening)
    | block opens' inside closes balanced =>
      obtain rfl := Option.some.inj (opens.fence?_eq.symm.trans opens'.fence?_eq)
      exact ⟨_, _, _, rfl, inside, closes, balanced⟩
  · rintro ⟨inner, last, later, rfl, inside, closes, balanced⟩
    exact .block opens inside closes balanced

theorem Balanced.append_iff {a : List (List Char)} (ha : Balanced a) (b : List (List Char)) : Balanced (a ++ b) ↔ Balanced b := by
  rw [← openAfter_eq_none_iff 0, openAfter_append, ha.openAfter_eq, openAfter_eq_none_iff]

/-- A line that begins with a span of code and stands outside every block is taken for a fence that opens one: a text with it has no
problem just when a later line closes that fence and what follows is balanced, and where none closes it the problem is the fence on
this line. -/
theorem span_opens {text : List Char} {before after : List (List Char)} {line rest : List Char} {n : Nat}
    (outside : Balanced before) (span : BeginsWithSpan n rest line) (inserted : lines text = before ++ line :: after) :
    (problems text = [] ↔
        ∃ inner last later, after = inner ++ last :: later ∧ (∀ l ∈ inner, ¬Fence.ClosedBy ⟨'\x60', n, rest⟩ l) ∧
          Fence.ClosedBy ⟨'\x60', n, rest⟩ last ∧ Balanced later) ∧
      ((∀ l ∈ after, ¬Fence.ClosedBy ⟨'\x60', n, rest⟩ l) →
        problems text =
          ["code fence " ++ String.ofList (List.replicate n '\x60') ++ " opened on line " ++ toString (before.length + 1) ++
            " is never closed"]) := by
  constructor
  · rw [problems_eq_nil_iff, inserted, outside.append_iff, balanced_cons_iff span.isOn]
  · intro inside
    have leaves : LeavesOpen ⟨'\x60', n, rest⟩ before (lines text) := by
      rw [inserted]
      exact .intro outside span.isOn inside
    exact leaves.problems_eq

/-- The fence that a span of code is taken for is closed by the fence of a block in four backticks, which shows one of three. -/
theorem span_opens_closed :
    Balanced ["# Widget".toList] ∧ BeginsWithSpan 3 "x``` runs.".toList "```x``` runs.".toList ∧
      lines "# Widget\n```x``` runs.\n````\n```\n````\n".toList =
        ["# Widget".toList] ++ "```x``` runs.".toList :: ["````".toList, "```".toList, "````".toList] ∧
      problems "# Widget\n```x``` runs.\n````\n```\n````\n".toList = [] := by
  have outside : Balanced ["# Widget".toList] := by decide
  have span : BeginsWithSpan 3 "x``` runs.".toList "```x``` runs.".toList := by constructor <;> decide
  have inserted : lines "# Widget\n```x``` runs.\n````\n```\n````\n".toList =
      ["# Widget".toList] ++ "```x``` runs.".toList :: ["````".toList, "```".toList, "````".toList] := by decide
  refine ⟨outside, span, inserted, (span_opens outside span inserted).1.mpr ?_⟩
  exact ⟨[], "````".toList, ["```".toList, "````".toList], rfl, nofun, by decide, by decide⟩

/-- A text without a problem, and a line that begins with a span of code and makes it have one. -/
theorem span_refused :
    problems "# Widget\n\n".toList = [] ∧ Balanced (lines "# Widget\n\n".toList) ∧
      BeginsWithSpan 3 "pip install widget``` installs it.".toList "```pip install widget``` installs it.".toList ∧
      lines "# Widget\n\n```pip install widget``` installs it.\n".toList =
        lines "# Widget\n\n".toList ++ ["```pip install widget``` installs it.".toList] ∧
      problems "# Widget\n\n```pip install widget``` installs it.\n".toList =
        ["code fence ``` opened on line 3 is never closed"] := by
  refine ⟨?_, ?_, ⟨?_, ?_, ?_, ?_⟩, ?_, ?_⟩
  all_goals decide

end ReleaseGate.Markdown
