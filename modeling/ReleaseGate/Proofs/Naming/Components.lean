import ReleaseGate.Proofs.Version.Canonical
import ReleaseGate.Verifier.Naming

/-!
# Versions as components of file names

`Naming.carriesVersion` looks at the occurrences of a version in a file name from left to right and passes over those that overlap
one it has looked at. Nothing is missed by that (`carriesVersion_iff`): an occurrence that begins a component has a separator before
it, which no version holds, so no earlier occurrence can reach into it. What stands before that separator is the project that the
file names (`NamesProject`).
-/

namespace ReleaseGate

namespace Text

/-! ## Occurrences -/

theorem getLast?_cons_or (c : Char) (p : List Char) (before : Option Char) :
    (c :: p).getLast?.or before = p.getLast?.or (some c) := by
  rw [List.getLast?_cons]
  cases p.getLast? <;> rfl

/-- An occurrence that is found stands in the text, after the character that is told with it. -/
theorem exists_append_of_mem_occurrencesFrom {needle s after : List Char} {skip : Nat} {before last : Option Char}
    (h : (last, after) ∈ occurrencesFrom needle skip before s) :
    ∃ p, s = p ++ (needle ++ after) ∧ last = p.getLast?.or before := by
  induction s generalizing skip before with
  | nil => cases h
  | cons c rest ih =>
    have later : ∀ {skip}, (last, after) ∈ occurrencesFrom needle skip (some c) rest →
        ∃ p, c :: rest = p ++ (needle ++ after) ∧ last = p.getLast?.or before := by
      intro skip hs
      obtain ⟨p, rfl, rfl⟩ := ih hs
      exact ⟨c :: p, rfl, (getLast?_cons_or c p before).symm⟩
    cases skip with
    | succ k => exact later h
    | zero =>
      simp only [occurrencesFrom] at h
      split at h
      next found here =>
        rcases List.mem_cons.mp h with first | more
        · obtain ⟨rfl, rfl⟩ := Prod.mk.inj first
          have whole := eq_append_of_afterPrefix? here
          exact ⟨[], whole, rfl⟩
        · exact later more
      next => exact later h

/-- An occurrence is found when the character before it stands nowhere in what is looked for. -/
theorem mem_occurrencesFrom {needle p after : List Char} {skip : Nat} {before : Option Char} (something : needle ≠ [])
    (apart : ∀ c ∈ p.getLast?, c ∉ needle) (room : skip ≤ p.length) :
    (p.getLast?.or before, after) ∈ occurrencesFrom needle skip before (p ++ (needle ++ after)) := by
  induction p generalizing skip before with
  | nil =>
    obtain rfl : skip = 0 := Nat.le_zero.mp room
    obtain ⟨n, more, rfl⟩ := List.exists_cons_of_ne_nil something
    have here : afterPrefix? (n :: more) (n :: (more ++ after)) = some after := afterPrefix?_append (n :: more) after
    simp [occurrencesFrom, here]
  | cons c p ih =>
    have apart' : ∀ d ∈ p.getLast?, d ∉ needle := by
      intro d hd
      refine apart d ?_
      rw [List.getLast?_cons, Option.mem_def.mp hd]
      rfl
    rw [getLast?_cons_or, List.cons_append]
    cases skip with
    | succ k => exact ih apart' (Nat.le_of_succ_le_succ room)
    | zero =>
      simp only [occurrencesFrom]
      split
      next found here =>
        refine List.mem_cons_of_mem _ (ih apart' ?_)
        -- an occurrence here that reached past `p` would hold the last character of `p`
        apply Nat.le_of_not_lt
        intro reaches
        have whole := eq_append_of_afterPrefix? here
        have inside : c :: p <+: needle := by
          have start : c :: p <+: c :: (p ++ (needle ++ after)) := ⟨needle ++ after, rfl⟩
          refine List.prefix_of_prefix_length_le start ⟨found, whole.symm⟩ ?_
          simp only [List.length_cons]
          omega
        obtain ⟨d, hd⟩ : ∃ d, (c :: p).getLast? = some d := ⟨_, List.getLast?_cons⟩
        exact apart d hd (inside.subset (List.mem_of_getLast? hd))
      next => exact ih apart' (Nat.zero_le _)

end Text

namespace Naming

open Text

/-- A version is a component of a file name when it stands there, in lower case, where a component begins and where one ends. -/
theorem carriesVersion_iff {fileName version : List Char} (something : version ≠ []) (lower : lowerAscii version = version)
    (plain : ∀ c ∈ version, startsComponent (some c) = false) :
    carriesVersion fileName version = true ↔
      ∃ p s, lowerAscii fileName = p ++ (version ++ s) ∧ startsComponent p.getLast? = true ∧ endsComponent s = true := by
  have inhabited : version.isEmpty = false := by simpa using something
  unfold carriesVersion occurrences
  rw [inhabited, lower, Bool.not_false, Bool.true_and, List.any_eq_true]
  constructor
  · rintro ⟨⟨last, after⟩, found, stands⟩
    obtain ⟨p, whole, rfl⟩ := exists_append_of_mem_occurrencesFrom found
    rw [Option.or_none, Bool.and_eq_true] at stands
    exact ⟨p, after, whole, stands.1, stands.2⟩
  · rintro ⟨p, s, whole, starts, ends⟩
    have apart : ∀ c ∈ p.getLast?, c ∉ version := by
      intro c hc inside
      rw [Option.mem_def.mp hc, plain c inside] at starts
      cases starts
    have found : (p.getLast?.or none, s) ∈ occurrencesFrom version 0 none (p ++ (version ++ s)) :=
      mem_occurrencesFrom something apart (Nat.zero_le _)
    rw [← whole, Option.or_none] at found
    exact ⟨_, found, by simp [starts, ends]⟩

/-- No character of a canonical version separates components. -/
theorem startsComponent_of_mem_canonical {v : Version} {c : Char} (h : c ∈ v.canonical.toList) :
    startsComponent (some c) = false := by
  have known := Version.isCanonical_of_mem_canonical h
  apply Bool.eq_false_iff.mpr
  intro separator
  simp only [startsComponent, Bool.or_eq_true, beq_iff_eq] at separator
  rcases separator with rfl | rfl
  all_goals cases known

/-- A version stands somewhere in a text as a component. -/
def StandsIn (version s : List Char) : Prop :=
  ∃ p after, s = p ++ (version ++ after) ∧ startsComponent p.getLast? = true ∧ endsComponent after = true

theorem carriesVersion_canonical_iff {fileName : List Char} {v : Version} :
    carriesVersion fileName v.canonical.toList = true ↔ StandsIn v.canonical.toList (lowerAscii fileName) :=
  carriesVersion_iff v.canonical_ne_nil v.lowerAscii_canonical fun _ => startsComponent_of_mem_canonical

/-- A component begins where a text does, and after a hyphen or an underscore. -/
theorem startsComponent_getLast?_iff (p : List Char) :
    startsComponent p.getLast? = true ↔ p = [] ∨ (∃ q, p = q ++ ['-']) ∨ ∃ q, p = q ++ ['_'] := by
  rcases List.eq_nil_or_concat p with rfl | ⟨q, c, rfl⟩
  · simp [startsComponent]
  · rw [List.concat_eq_append, List.getLast?_concat]
    simp [startsComponent]

/-- A component ends where a text does, before a hyphen, and before an extension with nothing after it. -/
theorem endsComponent_iff (s : List Char) :
    endsComponent s = true ↔ s = [] ∨ (∃ rest, s = '-' :: rest) ∨ ∃ e ∈ extensions, s = e.toList := by
  simp only [endsComponent, Bool.or_eq_true, List.isEmpty_iff, beq_iff_eq, List.any_eq_true, List.head?_eq_some_iff, or_assoc,
    eq_comm (a := s)]

/-- The search passes over no place where a version is a component, though it leaves out occurrences that overlap one before them:
a version is found in a file name, in lower case, wherever it comes after nothing, a hyphen or an underscore and before nothing, a
hyphen or an extension that ends the name, and in no other file name. -/
theorem carriesVersion_iff_exists_split (fileName : List Char) (v : Version) :
    carriesVersion fileName v.canonical.toList = true ↔
      ∃ p s, lowerAscii fileName = p ++ v.canonical.toList ++ s ∧
        (p = [] ∨ (∃ q, p = q ++ ['-']) ∨ ∃ q, p = q ++ ['_']) ∧
        (s = [] ∨ (∃ rest, s = '-' :: rest) ∨ ∃ e ∈ [".tar.gz", ".tar.bz2", ".tar.xz", ".zip", ".whl"], s = e.toList) := by
  rw [carriesVersion_canonical_iff]
  unfold StandsIn
  simp only [startsComponent_getLast?_iff, endsComponent_iff, List.append_assoc, extensions]

/-- A version is found behind occurrences of it that overlap each other. -/
example : carriesVersion "1.1.1-1.1.tar.gz".toList "1.1".toList = true := by decide

/-! ## Projects before versions -/

/-- A text begins with a version, in either case of letters, and a component ends after it. -/
def BeginsWithVersion (v : Version) (s : List Char) : Prop :=
  ∃ spelled rest, s = spelled ++ rest ∧ lowerAscii spelled = v.canonical.toList ∧ endsComponent (lowerAscii rest) = true

/-- A file name names a project, for a version: it is the project, a separator, and the version with what may follow it. -/
def NamesProject (v : Version) (project fileName : List Char) : Prop :=
  ∃ separator rest, fileName = project ++ separator :: rest ∧ startsComponent (some separator) = true ∧ BeginsWithVersion v rest

theorem startsComponent_toLower (c : Char) : startsComponent (some c.toLower) = startsComponent (some c) := by
  have hyphen : c.toLower = '-' ↔ c = '-' := toLower_eq_iff (by decide)
  have underscore : c.toLower = '_' ↔ c = '_' := toLower_eq_iff (by decide)
  rw [Bool.eq_iff_iff]
  simp [startsComponent, hyphen, underscore]

/-- A version is a component of a file name that begins with it or that names a project for it, and of no other. -/
theorem carriesVersion_iff_namesProject {fileName : List Char} {v : Version} :
    carriesVersion fileName v.canonical.toList = true ↔
      BeginsWithVersion v fileName ∨ ∃ project, NamesProject v project fileName := by
  rw [carriesVersion_canonical_iff]
  constructor
  · rintro ⟨p, s, whole, starts, ends⟩
    obtain ⟨before, onward, rfl, rfl, split⟩ := List.map_eq_append_iff.mp whole
    obtain ⟨spelled, rest, rfl, lowered, rfl⟩ := List.map_eq_append_iff.mp split
    rcases List.eq_nil_or_concat before with rfl | ⟨project, separator, rfl⟩
    · exact .inl ⟨spelled, rest, rfl, lowered, ends⟩
    · rw [List.concat_eq_append] at starts ⊢
      rw [List.map_append, List.map_singleton, List.getLast?_concat, startsComponent_toLower] at starts
      exact .inr ⟨project, separator, spelled ++ rest, by simp, starts, spelled, rest, rfl, lowered, ends⟩
  · rintro (⟨spelled, rest, rfl, lowered, ends⟩ | ⟨project, separator, _, rfl, starts, spelled, rest, rfl, lowered, ends⟩)
    · exact ⟨[], lowerAscii rest, by simp [lowerAscii, ← lowered], rfl, ends⟩
    · refine ⟨lowerAscii (project ++ [separator]), lowerAscii rest, by simp [lowerAscii, ← lowered], ?_, ends⟩
      rw [lowerAscii, List.map_append, List.map_singleton, List.getLast?_concat, startsComponent_toLower]
      exact starts

end Naming

end ReleaseGate
