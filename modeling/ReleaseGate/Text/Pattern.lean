/-!
# Patterns

A pattern describes a set of texts: single characters by a test, one pattern after another, a choice, and repetition. `Matches`
says which texts a pattern describes; `accepts` decides it by derivatives, character by character, and `accepts_iff` says that
the two agree.
-/

namespace ReleaseGate.Text

/-- A description of a set of texts. -/
inductive Pattern where
  /-- No text at all. -/
  | never
  /-- The empty text. -/
  | nothing
  /-- Any one character that passes the test. -/
  | one (test : Char → Bool)
  /-- A text of the first pattern followed by one of the second. -/
  | seq (first second : Pattern)
  /-- A text of either pattern. -/
  | alt (left right : Pattern)
  /-- Any number of texts of the pattern, one after another. -/
  | many (each : Pattern)

namespace Pattern

/-- Which texts a pattern describes. -/
inductive Matches : Pattern → List Char → Prop where
  | nothing : Matches nothing []
  | one {test : Char → Bool} {c : Char} (h : test c = true) : Matches (one test) [c]
  | seq {a b : Pattern} {s t : List Char} (hs : Matches a s) (ht : Matches b t) : Matches (seq a b) (s ++ t)
  | left {a b : Pattern} {s : List Char} (h : Matches a s) : Matches (alt a b) s
  | right {a b : Pattern} {s : List Char} (h : Matches b s) : Matches (alt a b) s
  | stop {a : Pattern} : Matches (many a) []
  | more {a : Pattern} {s t : List Char} (hs : Matches a s) (ht : Matches (many a) t) : Matches (many a) (s ++ t)

/-- A pattern for at most one text of another. -/
def optional (p : Pattern) : Pattern := alt nothing p

/-- A pattern for one or more texts of another, one after another. -/
def oneOrMore (p : Pattern) : Pattern := seq p (many p)

/-- The choice between several patterns. -/
def choice : List Pattern → Pattern
  | [] => never
  | [p] => p
  | p :: rest => alt p (choice rest)

/-- Several patterns one after another. -/
def sequence : List Pattern → Pattern
  | [] => nothing
  | [p] => p
  | p :: rest => seq p (sequence rest)

/-- Whether a pattern describes the empty text. -/
def nullable : Pattern → Bool
  | never => false
  | nothing => true
  | one _ => false
  | seq a b => a.nullable && b.nullable
  | alt a b => a.nullable || b.nullable
  | many _ => true

/-- `seq`, with the sequences that describe nothing or need no first part simplified. -/
def seqOf : Pattern → Pattern → Pattern
  | never, _ => never
  | nothing, b => b
  | a, b => seq a b

/-- `alt`, without a side that describes nothing. -/
def altOf : Pattern → Pattern → Pattern
  | never, b => b
  | a, never => a
  | a, b => alt a b

/-- The pattern for what may follow a character in the texts of a pattern. -/
def derivative (c : Char) : Pattern → Pattern
  | never => never
  | nothing => never
  | one test => if test c then nothing else never
  | seq a b =>
    if a.nullable then altOf (seqOf (a.derivative c) b) (b.derivative c) else seqOf (a.derivative c) b
  | alt a b => altOf (a.derivative c) (b.derivative c)
  | many a => seqOf (a.derivative c) (many a)

/-- Whether a pattern describes a text. -/
def accepts (p : Pattern) (s : List Char) : Bool := (s.foldl (fun q c => q.derivative c) p).nullable

theorem not_matches_never {s : List Char} : ¬ Matches never s := nofun

theorem matches_nothing_iff {s : List Char} : Matches nothing s ↔ s = [] :=
  ⟨fun h => by cases h; rfl, fun h => h ▸ .nothing⟩

theorem matches_one_iff {test : Char → Bool} {s : List Char} : Matches (one test) s ↔ ∃ c, test c = true ∧ s = [c] :=
  ⟨fun h => by cases h with | one h => exact ⟨_, h, rfl⟩, fun ⟨_, h, e⟩ => e ▸ .one h⟩

theorem matches_seq_iff {a b : Pattern} {s : List Char} :
    Matches (seq a b) s ↔ ∃ t u, Matches a t ∧ Matches b u ∧ s = t ++ u :=
  ⟨fun h => by cases h with | seq ht hu => exact ⟨_, _, ht, hu, rfl⟩, fun ⟨_, _, ht, hu, e⟩ => e ▸ .seq ht hu⟩

theorem matches_alt_iff {a b : Pattern} {s : List Char} : Matches (alt a b) s ↔ Matches a s ∨ Matches b s :=
  ⟨fun h => by
    cases h with
    | left h => exact .inl h
    | right h => exact .inr h,
   fun h => h.elim .left .right⟩

theorem matches_seqOf_iff {a b : Pattern} {s : List Char} : Matches (seqOf a b) s ↔ Matches (seq a b) s := by
  unfold seqOf
  split
  · simp [matches_seq_iff, not_matches_never]
  · simp [matches_seq_iff, matches_nothing_iff]
  · rfl

theorem matches_altOf_iff {a b : Pattern} {s : List Char} : Matches (altOf a b) s ↔ Matches (alt a b) s := by
  unfold altOf
  split
  · simp [matches_alt_iff, not_matches_never]
  · simp [matches_alt_iff, not_matches_never]
  · rfl

theorem nullable_iff {p : Pattern} : p.nullable = true ↔ Matches p [] := by
  induction p with
  | never => simp [nullable, not_matches_never]
  | nothing => simp [nullable, matches_nothing_iff]
  | one test => simp [nullable, matches_one_iff]
  | seq a b iha ihb =>
    simp only [nullable, Bool.and_eq_true, iha, ihb, matches_seq_iff]
    constructor
    · rintro ⟨ha, hb⟩
      exact ⟨[], [], ha, hb, rfl⟩
    · rintro ⟨t, u, ht, hu, e⟩
      obtain ⟨rfl, rfl⟩ := List.append_eq_nil_iff.mp e.symm
      exact ⟨ht, hu⟩
  | alt a b iha ihb => simp only [nullable, Bool.or_eq_true, iha, ihb, matches_alt_iff]
  | many a _ => simpa [nullable] using Matches.stop

/-- A repetition that begins with a character begins with a text of its pattern that does. -/
theorem matches_many_cons_iff {a : Pattern} {c : Char} {s : List Char} :
    Matches (many a) (c :: s) ↔ ∃ t u, Matches a (c :: t) ∧ Matches (many a) u ∧ s = t ++ u := by
  constructor
  · intro h
    generalize hp : many a = p at h
    generalize hs : c :: s = w at h
    induction h with
    | stop => simp at hs
    | @more b v u hv hu _ ihu =>
      cases hp
      cases v with
      | nil => exact ihu rfl (by simpa using hs)
      | cons d v =>
        simp only [List.cons_append, List.cons.injEq] at hs
        obtain ⟨rfl, rfl⟩ := hs
        exact ⟨v, u, hv, hu, rfl⟩
    | nothing => cases hp
    | one => cases hp
    | seq => cases hp
    | left => cases hp
    | right => cases hp
  · rintro ⟨t, u, ht, hu, rfl⟩
    exact Matches.more ht hu

theorem derivative_matches_iff {p : Pattern} {c : Char} {s : List Char} :
    Matches (p.derivative c) s ↔ Matches p (c :: s) := by
  induction p generalizing s with
  | never => simp [derivative, not_matches_never]
  | nothing => simp [derivative, not_matches_never, matches_nothing_iff]
  | one test =>
    simp only [derivative, matches_one_iff]
    split
    · next h =>
      rw [matches_nothing_iff]
      exact ⟨fun e => ⟨c, h, by rw [e]⟩, fun ⟨_, _, e⟩ => (List.cons.inj e).2⟩
    · next h =>
      refine ⟨fun hn => absurd hn not_matches_never, fun ⟨d, hd, e⟩ => ?_⟩
      rw [(List.cons.inj e).1] at h
      exact absurd hd h
  | alt a b iha ihb => simp only [derivative, matches_altOf_iff, matches_alt_iff, iha, ihb]
  | many a ih =>
    simp only [derivative, matches_seqOf_iff, matches_seq_iff, matches_many_cons_iff, ih]
  | seq a b iha ihb =>
    have key : Matches (seq a b) (c :: s) ↔
        (∃ t u, Matches a (c :: t) ∧ Matches b u ∧ s = t ++ u) ∨ (Matches a [] ∧ Matches b (c :: s)) := by
      rw [matches_seq_iff]
      constructor
      · rintro ⟨t, u, ht, hu, e⟩
        cases t with
        | nil => exact .inr ⟨ht, by simpa [e] using hu⟩
        | cons d t =>
          simp only [List.cons_append, List.cons.injEq] at e
          obtain ⟨rfl, rfl⟩ := e
          exact .inl ⟨t, u, ht, hu, rfl⟩
      · rintro (⟨t, u, ht, hu, rfl⟩ | ⟨ha, hb⟩)
        · exact ⟨c :: t, u, ht, hu, rfl⟩
        · exact ⟨[], c :: s, ha, hb, rfl⟩
    rw [key]
    simp only [derivative]
    split
    · next h =>
      simp only [matches_altOf_iff, matches_alt_iff, matches_seqOf_iff, matches_seq_iff, iha, ihb, nullable_iff.mp h, true_and]
    · next h =>
      have hn : ¬ Matches a [] := fun ha => h (nullable_iff.mpr ha)
      simp only [matches_seqOf_iff, matches_seq_iff, iha, hn, false_and, or_false]

/-- Deciding by derivatives agrees with the description. -/
theorem accepts_iff {p : Pattern} {s : List Char} : p.accepts s = true ↔ Matches p s := by
  induction s generalizing p with
  | nil => exact nullable_iff
  | cons c s ih => exact (ih (p := p.derivative c)).trans derivative_matches_iff

theorem matches_optional_iff {p : Pattern} {s : List Char} : Matches (optional p) s ↔ s = [] ∨ Matches p s := by
  rw [optional, matches_alt_iff, matches_nothing_iff]

/-- A choice describes the texts of its patterns. -/
theorem matches_choice_iff {ps : List Pattern} {s : List Char} : Matches (choice ps) s ↔ ∃ p ∈ ps, Matches p s := by
  induction ps with
  | nil => simp [choice, not_matches_never]
  | cons p rest ih =>
    cases rest with
    | nil => simp [choice]
    | cons q rest =>
      rw [choice, matches_alt_iff, ih]
      · simp
      · simp

@[simp] theorem sequence_singleton (p : Pattern) : sequence [p] = p := rfl

theorem matches_sequence_cons_iff {p q : Pattern} {ps : List Pattern} {s : List Char} :
    Matches (sequence (p :: q :: ps)) s ↔ ∃ t u, Matches p t ∧ Matches (sequence (q :: ps)) u ∧ s = t ++ u := by
  rw [sequence, matches_seq_iff]
  simp

/-- A repetition describes the texts of its pattern one after another. -/
theorem matches_many_iff {p : Pattern} {s : List Char} :
    Matches (many p) s ↔ ∃ pieces : List (List Char), (∀ t ∈ pieces, Matches p t) ∧ s = pieces.flatten := by
  constructor
  · intro h
    generalize hq : many p = q at h
    induction h with
    | stop => exact ⟨[], nofun, rfl⟩
    | @more a t u ht _ _ ih =>
      cases hq
      obtain ⟨pieces, each, rfl⟩ := ih rfl
      exact ⟨t :: pieces, List.forall_mem_cons.mpr ⟨ht, each⟩, rfl⟩
    | nothing => cases hq
    | one => cases hq
    | seq => cases hq
    | left => cases hq
    | right => cases hq
  · rintro ⟨pieces, each, rfl⟩
    induction pieces with
    | nil => exact .stop
    | cons t pieces ih => exact .more (each t List.mem_cons_self) (ih fun u hu => each u (List.mem_cons_of_mem t hu))

/-- A repetition of a test on characters describes the texts whose characters all pass it. -/
theorem matches_many_one_iff {test : Char → Bool} {s : List Char} :
    Matches (many (one test)) s ↔ ∀ c ∈ s, test c = true := by
  constructor
  · intro h
    obtain ⟨pieces, each, rfl⟩ := matches_many_iff.mp h
    intro c hc
    obtain ⟨t, ht, hct⟩ := List.mem_flatten.mp hc
    obtain ⟨d, hd, rfl⟩ := matches_one_iff.mp (each t ht)
    rw [List.mem_singleton.mp hct]
    exact hd
  · intro h
    induction s with
    | nil => exact .stop
    | cons c rest ih =>
      have tail := ih fun d hd => h d (List.mem_cons_of_mem c hd)
      exact Matches.more (.one (h c List.mem_cons_self)) tail

/-- Every character that passes a test of a pattern has a property. -/
def Reads (has : Char → Prop) : Pattern → Prop
  | never => True
  | nothing => True
  | one test => ∀ c, test c = true → has c
  | seq a b => a.Reads has ∧ b.Reads has
  | alt a b => a.Reads has ∧ b.Reads has
  | many a => a.Reads has

/-- The characters of the texts that a pattern describes have the properties that its tests demand. -/
theorem Matches.reads {has : Char → Prop} {p : Pattern} {s : List Char} (h : Matches p s) (every : p.Reads has) :
    ∀ c ∈ s, has c := by
  induction h with
  | nothing => exact nofun
  | one passed =>
    intro d hd
    rw [List.mem_singleton.mp hd]
    exact every _ passed
  | seq _ _ iha ihb => exact List.forall_mem_append.mpr ⟨iha every.1, ihb every.2⟩
  | left _ ih => exact ih every.1
  | right _ ih => exact ih every.2
  | stop => exact nofun
  | more _ _ iha ihb => exact List.forall_mem_append.mpr ⟨iha every, ihb every⟩

theorem reads_sequence {has : Char → Prop} {ps : List Pattern} (h : ∀ p ∈ ps, p.Reads has) : (sequence ps).Reads has := by
  induction ps with
  | nil => exact trivial
  | cons p rest ih =>
    obtain ⟨first, others⟩ := List.forall_mem_cons.mp h
    cases rest with
    | nil => exact first
    | cons q rest => exact ⟨first, ih others⟩

theorem reads_choice {has : Char → Prop} {ps : List Pattern} (h : ∀ p ∈ ps, p.Reads has) : (choice ps).Reads has := by
  induction ps with
  | nil => exact trivial
  | cons p rest ih =>
    obtain ⟨first, others⟩ := List.forall_mem_cons.mp h
    cases rest with
    | nil => exact first
    | cons q rest => exact ⟨first, ih others⟩

/-- A character between two bounds. -/
def range (low high : Char) : Pattern := one fun c => low ≤ c && c ≤ high

/-- An ASCII digit. -/
def digit : Pattern := one Char.isDigit

/-- Any one of the characters of a list. -/
def oneOf (cs : List Char) : Pattern := one fun c => cs.contains c

/-- A given character. -/
def char (expected : Char) : Pattern := one fun c => c == expected

end Pattern

end ReleaseGate.Text
