import ReleaseGate.Text.LetterCase

/-!
# Lower-case forms

A letter in lower case is its own lower-case form, so a text in lower case stays as it is (`lower_lower`). For ASCII that is plain; for
the other letters it says that the table turns none into one that it turns into another (`bitsOf_turned_and_bitsOf`).
-/

namespace ReleaseGate.Text

/-! ## Runs of letters -/

/-- The run of the letters that those of a run are turned into. -/
def CaseRun.turned (r : CaseRun) : CaseRun := ⟨(r.first + r.shift).toNat, (r.last + r.shift).toNat, r.stride, 0⟩

/-- The number whose bits are the given code points. -/
def bitsOf (points : List Nat) : Nat := points.foldr (fun n bits => bits ||| 1 <<< n) 0

/-- The code points of a run. -/
def CaseRun.points (r : CaseRun) : List Nat :=
  (List.range ((r.last - r.first) / r.stride + 1)).map fun i => r.first + r.stride * i

theorem testBit_bitsOf {points : List Nat} {n : Nat} (h : n ∈ points) : (bitsOf points).testBit n = true := by
  induction points with
  | nil => cases h
  | cons m points ih =>
    rw [bitsOf, List.foldr_cons, ← bitsOf, Nat.testBit_or, Bool.or_eq_true]
    rcases List.mem_cons.mp h with rfl | later
    · right
      simp
    · exact .inl (ih later)

theorem CaseRun.holds_iff (r : CaseRun) (n : Nat) :
    r.holds n = true ↔ r.first ≤ n ∧ n ≤ r.last ∧ (n - r.first) % r.stride = 0 := by
  simp [holds, and_assoc]

theorem CaseRun.mem_points {r : CaseRun} {n : Nat} (h : r.holds n = true) : n ∈ r.points := by
  obtain ⟨above, below, step⟩ := (r.holds_iff n).mp h
  have bound : (n - r.first) / r.stride ≤ (r.last - r.first) / r.stride := Nat.div_le_div_right (by omega)
  have whole : r.stride * ((n - r.first) / r.stride) = n - r.first := Nat.mul_div_cancel' (Nat.dvd_of_mod_eq_zero step)
  refine List.mem_map.mpr ⟨(n - r.first) / r.stride, List.mem_range.mpr (by omega), ?_⟩
  rw [whole]
  omega

/-- The capital I with a dot, which is in none of the runs, as a run of its own. -/
def dottedRun : CaseRun := ⟨0x130, 0x130, 1, 0⟩

/-- The table: no letter that one is turned into is turned into another. As bits of two numbers, the letters are compared at once. -/
theorem bitsOf_turned_and_bitsOf :
    bitsOf (upperRuns.flatMap (·.turned.points)) &&& bitsOf ((dottedRun :: upperRuns).flatMap (·.points)) = 0 := by
  decide +kernel

/-- What letters are turned into comes after the capital letters of ASCII. -/
theorem capitals_lt_turned : ∀ r ∈ upperRuns, 97 ≤ r.first + r.shift := by
  decide +kernel

theorem CaseRun.holds_turned {r : CaseRun} (known : r ∈ upperRuns) {n m : Nat} (h : r.holds n = true)
    (same : (m : Int) = n + r.shift) : r.turned.holds m = true := by
  have begins := capitals_lt_turned r known
  rw [holds_iff] at h ⊢
  obtain ⟨above, below, step⟩ := h
  have distance : m - (r.first + r.shift).toNat = n - r.first := by omega
  show (r.first + r.shift).toNat ≤ m ∧ m ≤ (r.last + r.shift).toNat ∧ (m - (r.first + r.shift).toNat) % r.stride = 0
  refine ⟨by omega, by omega, ?_⟩
  rw [distance, step]

/-- What a letter is turned into is in no run of letters that are turned into others. -/
theorem CaseRun.holds_eq_false_of_turned {r q : CaseRun} (known : r ∈ upperRuns) (known' : q ∈ dottedRun :: upperRuns) {n m : Nat}
    (h : r.holds n = true) (same : (m : Int) = n + r.shift) : q.holds m = false := by
  rw [Bool.eq_false_iff]
  intro held
  have turned : m ∈ upperRuns.flatMap (·.turned.points) :=
    List.mem_flatMap.mpr ⟨r, known, mem_points (holds_turned known h same)⟩
  have upper : m ∈ (dottedRun :: upperRuns).flatMap (·.points) := List.mem_flatMap.mpr ⟨q, known', mem_points held⟩
  have both := congrArg (·.testBit m) bitsOf_turned_and_bitsOf
  simp only [Nat.testBit_and, testBit_bitsOf turned, testBit_bitsOf upper, Nat.zero_testBit] at both
  cases both

/-! ## Characters -/

/-- A character in none of the runs is its own lower-case form. -/
theorem lowerChar_eq_self {c : Char} (h : ∀ r ∈ dottedRun :: upperRuns, r.holds c.toNat = false) : lowerChar c = [c] := by
  obtain ⟨dotted, runs⟩ := List.forall_mem_cons.mp h
  have capital : ¬(65 ≤ c.toNat ∧ c.toNat ≤ 90) := by
    have first := runs ⟨0x41, 0x5a, 1, 32⟩ List.mem_cons_self
    rw [Bool.eq_false_iff, Ne, CaseRun.holds_iff] at first
    intro bounds
    exact first ⟨bounds.1, bounds.2, Nat.mod_one _⟩
  have noDot : c.toNat ≠ 0x130 := by
    rintro same
    rw [same] at dotted
    cases dotted
  have nowhere : upperRuns.find? (·.holds c.toNat) = none := by
    rw [List.find?_eq_none]
    intro r hr
    rw [runs r hr]
    exact Bool.false_ne_true
  unfold lowerChar
  rw [nowhere, toLower_eq_self capital]
  simp [noDot]

/-- The ways in which a character gets its lower-case form. -/
theorem lowerChar_cases (c : Char) :
    lowerChar c = [c.toLower] ∧ c.toNat < 0x80 ∨ lowerChar c = ['i', '\u0307'] ∨
      (∃ r ∈ upperRuns, r.holds c.toNat = true ∧ lowerChar c = [Char.ofNat (c.toNat + r.shift).toNat]) ∨ lowerChar c = [c] := by
  unfold lowerChar
  split
  next ascii => exact .inl ⟨rfl, ascii⟩
  next =>
    split
    next => exact .inr (.inl rfl)
    next =>
      split
      next r found =>
        have held : r.holds c.toNat = true := by simpa using List.find?_some found
        exact .inr (.inr (.inl ⟨r, List.mem_of_find?_eq_some found, held, rfl⟩))
      next => exact .inr (.inr (.inr rfl))

theorem lowerChar_ne_nil (c : Char) : lowerChar c ≠ [] := by
  rcases lowerChar_cases c with ⟨h, -⟩ | h | ⟨_, -, -, h⟩ | h
  all_goals simp [h]

/-- A number that is no code point stands for the null character. -/
theorem ofNat_eq_null_or_toNat_ofNat (n : Nat) : Char.ofNat n = '\x00' ∨ (Char.ofNat n).toNat = n := by
  by_cases valid : n.isValidChar
  · right
    rw [Char.ofNat, dif_pos valid]
    rfl
  · left
    rw [Char.ofNat, dif_neg valid]
    rfl

/-- What a letter of a run is turned into comes after the capital letters of ASCII, as far as it is a character. -/
theorem shifted_cases {r : CaseRun} (known : r ∈ upperRuns) {n : Nat} (h : r.holds n = true) :
    Char.ofNat (n + r.shift).toNat = '\x00' ∨
      97 ≤ (Char.ofNat (n + r.shift).toNat).toNat ∧ ((Char.ofNat (n + r.shift).toNat).toNat : Int) = n + r.shift := by
  have begins := capitals_lt_turned r known
  have first := ((r.holds_iff n).mp h).1
  rcases ofNat_eq_null_or_toNat_ofNat (n + r.shift).toNat with null | point
  · exact .inl null
  · right
    rw [point]
    omega

/-- Each character of a lower-case form is its own lower-case form. -/
theorem lowerChar_of_mem {c d : Char} (h : d ∈ lowerChar c) : lowerChar d = [d] := by
  rcases lowerChar_cases c with ⟨form, ascii⟩ | form | ⟨r, known, held, form⟩ | form
  · obtain rfl : d = c.toLower := List.mem_singleton.mp (form ▸ h)
    have small : c.toLower.toNat < 0x80 := by
      rw [toNat_toLower]
      split <;> omega
    rw [lowerChar, if_pos small, toLower_toLower]
  · rw [form] at h
    simp only [List.mem_cons, List.not_mem_nil, or_false] at h
    rcases h with rfl | rfl
    all_goals decide +kernel
  · obtain rfl : d = Char.ofNat (c.toNat + r.shift).toNat := List.mem_singleton.mp (form ▸ h)
    rcases shifted_cases known held with null | ⟨-, same⟩
    · rw [null]
      decide
    · apply lowerChar_eq_self
      intro q hq
      exact CaseRun.holds_eq_false_of_turned known hq held same
  · obtain rfl : d = c := List.mem_singleton.mp (form ▸ h)
    exact form

/-! ## Texts -/

theorem lower_append (s t : List Char) : lower (s ++ t) = lower s ++ lower t := List.flatMap_append

theorem lower_cons (c : Char) (s : List Char) : lower (c :: s) = lowerChar c ++ lower s := List.flatMap_cons

/-- A text of characters that are their own lower-case forms stays as it is. -/
theorem lower_eq_self {s : List Char} (h : ∀ c ∈ s, lowerChar c = [c]) : lower s = s := by
  induction s with
  | nil => rfl
  | cons c s ih =>
    obtain ⟨first, later⟩ := List.forall_mem_cons.mp h
    rw [lower_cons, first, ih later]
    rfl

/-- In ASCII only the 26 letters have a lower case. -/
theorem lower_of_ascii {s : List Char} (ascii : ∀ c ∈ s, c.toNat < 0x80) : lower s = lowerAscii s := by
  induction s with
  | nil => rfl
  | cons c s ih =>
    obtain ⟨first, later⟩ := List.forall_mem_cons.mp ascii
    rw [lower_cons, lowerChar, if_pos first, ih later]
    rfl

theorem lowerChar_of_mem_lower {c : Char} {s : List Char} (h : c ∈ lower s) : lowerChar c = [c] := by
  obtain ⟨d, -, inside⟩ := List.mem_flatMap.mp h
  exact lowerChar_of_mem inside

/-- A text in lower case stays as it is. -/
theorem lower_lower (s : List Char) : lower (lower s) = lower s := lower_eq_self fun _ => lowerChar_of_mem_lower

end ReleaseGate.Text
