import Mathlib.Data.Nat.Digits.Defs
import ReleaseGate.Proofs.Text.Decimal
import ReleaseGate.RunId
import ReleaseGate.Timestamp

/-!
# Timestamps and run identifiers are read back

The readers of timestamps and of run identifiers take many spellings; the one that is written is among them. Each number of a
timestamp is written with as many digits as it is read with, but for a year with a sign, which is read up to the hyphen after it
(`parse?_print`).
-/

namespace ReleaseGate

namespace DateTime

open Text Text.Decimal

/-! ## Numbers -/

/-- The digits of a number, filled up with zeros: there is one, and they write the number. -/
theorem padded_spec (width n : Nat) :
    padded width n ≠ [] ∧ (∀ d ∈ padded width n, d.isDigit = true) ∧ digitsValue (padded width n) = n := by
  refine ⟨by simp [padded, Nat.toDigits_ne_nil], ?_, ?_⟩
  · refine List.forall_mem_append.mpr ⟨fun d hd => ?_, fun d => isDigit_of_mem_toDigits⟩
    rw [List.eq_of_mem_replicate hd]
    rfl
  · exact (valueFrom_zeros _ _).trans (valueFrom_toDigits n)

theorem length_padded {width n : Nat} (some_digit : 0 < width) (fits : n < 10 ^ width) : (padded width n).length = width := by
  have short : (Nat.toDigits 10 n).length ≤ width := Nat.toDigits_length 10 n width some_digit fits
  simp only [padded, List.length_append, List.length_replicate]
  omega

/-- What begins with a digit has no blanks at its start. -/
theorem trimStart_digits {ds : List Char} (some_digit : ds ≠ []) (digits : ∀ d ∈ ds, d.isDigit = true) (rest : List Char) :
    trimStart (ds ++ rest) = ds ++ rest := by
  obtain ⟨d, more, rfl⟩ := List.exists_cons_of_ne_nil some_digit
  refine trimStart_eq_self ?_
  rintro c ⟨⟩
  exact isBlank_of_isDigit (digits d List.mem_cons_self)

/-- A text that does not go on with a digit. -/
def EndsDigits (s : List Char) : Prop := ∀ c ∈ s.head?, c.isDigit = false

theorem takeWhile_digits {ds : List Char} (rest : List Char) (digits : ∀ d ∈ ds, d.isDigit = true) (ends : EndsDigits rest) :
    (ds ++ rest).takeWhile Char.isDigit = ds := by
  have stops : rest.takeWhile Char.isDigit = [] := by
    cases rest with
    | nil => rfl
    | cons c rest => simp [ends c rfl]
  rw [List.takeWhile_append_of_pos digits, stops, List.append_nil]

/-- A number is read that has as many digits as may be read, or fewer with no digit after them. -/
theorem readNumber?_digits {width : Nat} {ds rest : List Char} (some_digit : ds ≠ []) (digits : ∀ d ∈ ds, d.isDigit = true)
    (room : ds.length = width ∨ ds.length ≤ width ∧ EndsDigits rest) :
    readNumber? width (ds ++ rest) = some (digitsValue ds, rest) := by
  have taken : ((ds ++ rest).take width).takeWhile Char.isDigit = ds := by
    rcases room with rfl | ⟨fits, ends⟩
    · rw [List.take_left]
      simpa using takeWhile_digits [] digits nofun
    · rw [List.take_append, List.take_of_length_le fits]
      refine takeWhile_digits _ digits fun c hc => ends c ?_
      cases rest with
      | nil => simp at hc
      | cons d rest =>
        cases h : width - ds.length with
        | zero => simp [h] at hc
        | succ k => simpa [h] using hc
  unfold readNumber?
  rw [trimStart_digits some_digit digits]
  simp only [taken, List.drop_left, List.isEmpty_iff, some_digit, if_false]

theorem readNumber?_padded {width n : Nat} (some_digit : 0 < width) (fits : n < 10 ^ width) (rest : List Char) :
    readNumber? width (padded width n ++ rest) = some (n, rest) := by
  obtain ⟨nonempty, digits, value⟩ := padded_spec width n
  rw [readNumber?_digits nonempty digits (.inl (length_padded some_digit fits)), value]

/-! ## Components -/

/-- A year of four digits without a sign. -/
theorem readYear?_padded {n : Nat} (fits : n < 10 ^ 4) (rest : List Char) :
    readYear? (padded 4 n ++ rest) = some ((n : Int), rest) := by
  obtain ⟨nonempty, digits, -⟩ := padded_spec 4 n
  have read := readNumber?_padded (by decide) fits rest
  have trimmed := trimStart_digits nonempty digits rest
  obtain ⟨d, more, e⟩ := List.exists_cons_of_ne_nil nonempty
  have digit : d.isDigit = true := digits d (by simp [e])
  rw [e, List.cons_append] at read trimmed ⊢
  unfold readYear?
  rw [trimmed]
  -- a digit is no sign
  split
  next sign =>
    rw [(List.cons.inj sign).1] at digit
    cases digit
  next sign =>
    rw [(List.cons.inj sign).1] at digit
    cases digit
  next => simp only [read, Option.map_some]

/-- The digits after the sign of a year: there is one, and they are read up to the hyphen. -/
theorem readNumber?_signed (n : Nat) (rest : List Char) :
    (padded 4 n ++ '-' :: rest).head?.any Char.isDigit = true ∧
      readNumber? (padded 4 n ++ '-' :: rest).length (padded 4 n ++ '-' :: rest) = some (n, '-' :: rest) := by
  obtain ⟨nonempty, digits, value⟩ := padded_spec 4 n
  have hyphen : EndsDigits ('-' :: rest) := by
    rintro c ⟨⟩
    rfl
  have short : (padded 4 n).length ≤ (padded 4 n ++ '-' :: rest).length := by simp
  refine ⟨?_, by rw [readNumber?_digits nonempty digits (.inr ⟨short, hyphen⟩), value]⟩
  obtain ⟨d, more, e⟩ := List.exists_cons_of_ne_nil nonempty
  simpa [e] using digits d (by simp [e])

/-- A year is read up to the hyphen after it. -/
theorem readYear?_printYear (year : Int) (rest : List Char) :
    readYear? (printYear year ++ '-' :: rest) = some (year, '-' :: rest) := by
  unfold printYear
  split
  next plain =>
    simp only [Bool.and_eq_true, decide_eq_true_iff] at plain
    have fits : year.toNat < 10 ^ 4 := by omega
    rw [readYear?_padded fits, Int.toNat_of_nonneg plain.1]
  next =>
    obtain ⟨first, read⟩ := readNumber?_signed year.natAbs rest
    by_cases negative : year < 0
    · have value : -(year.natAbs : Int) = year := by omega
      have unblank : trimStart ('-' :: (padded 4 year.natAbs ++ '-' :: rest)) = '-' :: (padded 4 year.natAbs ++ '-' :: rest) := rfl
      rw [if_pos negative, List.cons_append, readYear?, unblank]
      simp only [first, if_true, read, Option.map_some, value]
    · have value : (year.natAbs : Int) = year := by omega
      have unblank : trimStart ('+' :: (padded 4 year.natAbs ++ '-' :: rest)) = '+' :: (padded 4 year.natAbs ++ '-' :: rest) := rfl
      rw [if_neg negative, List.cons_append, readYear?, unblank]
      simp only [first, if_true, read, Option.map_some, value]

theorem afterMark?_hyphen (s : List Char) : afterMark? '-' ('-' :: s) = some s := rfl

theorem afterMark?_colon (s : List Char) : afterMark? ':' (':' :: s) = some s := rfl

/-- A fraction that is written with so many digits. -/
theorem readFraction?_padded {width n : Nat} (some_digit : 0 < width) (most : width ≤ 9) (fits : n < 10 ^ width) :
    readFraction? ('.' :: (padded width n ++ ['Z'])) = some (n * 10 ^ (9 - width), ['Z']) := by
  obtain ⟨nonempty, digits, value⟩ := padded_spec width n
  have long := length_padded some_digit fits
  have taken : (padded width n ++ ['Z']).takeWhile Char.isDigit = padded width n := by
    refine takeWhile_digits _ digits ?_
    rintro c ⟨⟩
    rfl
  have kept : (padded width n).take 9 = padded width n := List.take_of_length_le (by omega)
  have left : (padded width n ++ ['Z']).drop (padded width n).length = ['Z'] := List.drop_left
  simp [readFraction?, taken, kept, nonempty, value, long ▸ left, long]

theorem readFraction?_printFraction {n : Nat} (fits : n < 1000000000) :
    readFraction? (printFraction n ++ ['Z']) = some (n, ['Z']) := by
  unfold printFraction
  split
  next zero =>
    obtain rfl : n = 0 := beq_iff_eq.mp zero
    rfl
  next =>
    split
    next whole =>
      have value : n / 1000000 * 10 ^ (9 - 3) = n := Nat.div_mul_cancel (Nat.dvd_of_mod_eq_zero (beq_iff_eq.mp whole))
      rw [List.cons_append, readFraction?_padded (by decide) (by decide) (by omega), value]
    next =>
      split
      next whole =>
        have value : n / 1000 * 10 ^ (9 - 6) = n := Nat.div_mul_cancel (Nat.dvd_of_mod_eq_zero (beq_iff_eq.mp whole))
        rw [List.cons_append, readFraction?_padded (by decide) (by decide) (by omega), value]
      next =>
        rw [List.cons_append, readFraction?_padded (by decide) (by decide) (by omega)]
        simp

end DateTime

namespace Timestamp

open DateTime Text

/-- The bounds of the components of a timestamp. -/
theorem bounds (t : Timestamp) :
    t.utc.month < 100 ∧ t.utc.day < 100 ∧ t.utc.hour < 100 ∧ t.utc.minute < 100 ∧ t.utc.second < 100 ∧
      t.utc.nanosecond < 1000000000 := by
  have valid := t.isValid
  have month : Calendar.daysInMonth t.utc.year t.utc.month ≤ 31 := by
    unfold Calendar.daysInMonth
    repeat' split
    all_goals decide
  simp only [DateTime.isValid, Bool.and_eq_true, decide_eq_true_iff] at valid
  omega

/-- A timestamp is read back from its text. -/
theorem parse?_print (t : Timestamp) : parse? t.print = some t := by
  obtain ⟨month, day, hour, minute, second, nanosecond⟩ := t.bounds
  have number : ∀ {n : Nat}, n < 100 → ∀ rest, readNumber? 2 (padded 2 n ++ rest) = some (n, rest) :=
    fun fits rest => readNumber?_padded (by decide) fits rest
  have offset : readOffset? (trimStart ['Z']) = some (0, []) := rfl
  have whole : ofUtc? t.utc = some t := dif_pos t.isValid
  have text : t.print.toList = printYear t.utc.year ++ '-' :: (padded 2 t.utc.month ++ '-' :: (padded 2 t.utc.day ++ 'T' ::
      (padded 2 t.utc.hour ++ ':' :: (padded 2 t.utc.minute ++ ':' :: (padded 2 t.utc.second ++
        (printFraction t.utc.nanosecond ++ ['Z'])))))) := by
    simp [Timestamp.print, DateTime.print]
  unfold parse?
  rw [text]
  -- the components are read one after the other
  refine Option.bind_eq_some_iff.mpr ⟨_, readYear?_printYear _ _, ?_⟩
  refine Option.bind_eq_some_iff.mpr ⟨_, afterMark?_hyphen _, ?_⟩
  refine Option.bind_eq_some_iff.mpr ⟨_, number month _, ?_⟩
  refine Option.bind_eq_some_iff.mpr ⟨_, afterMark?_hyphen _, ?_⟩
  refine Option.bind_eq_some_iff.mpr ⟨_, number day _, ?_⟩
  refine Option.bind_eq_some_iff.mpr ⟨_, number hour _, ?_⟩
  refine Option.bind_eq_some_iff.mpr ⟨_, afterMark?_colon _, ?_⟩
  refine Option.bind_eq_some_iff.mpr ⟨_, number minute _, ?_⟩
  refine Option.bind_eq_some_iff.mpr ⟨_, afterMark?_colon _, ?_⟩
  refine Option.bind_eq_some_iff.mpr ⟨_, number second _, ?_⟩
  refine Option.bind_eq_some_iff.mpr ⟨_, readFraction?_printFraction nanosecond, ?_⟩
  refine Option.bind_eq_some_iff.mpr ⟨_, offset, ?_⟩
  have ends : ((trimStart []).isEmpty && t.utc.isValid && decide ((0 : Int).natAbs < 1440)) = true := by
    rw [t.isValid]
    rfl
  exact (if_pos ends).trans whole

end Timestamp

namespace RunId

/-- A digit is read back from its character. -/
theorem digit?_printDigit (d : Fin 16) : digit? (printDigit d) = some d := by
  revert d
  decide

theorem ofChars?_printDigit (id : RunId) : ofChars? (id.digits.map printDigit) = some id := by
  have each : ∀ ds : List (Fin 16), (ds.map printDigit).mapM digit? = some ds := by
    intro ds
    induction ds with
    | nil => rfl
    | cons d ds ih => simp [List.mapM_cons, digit?_printDigit, ih]
  rw [ofChars?, each, Option.bind_some, dif_pos id.length_digits]

/-- The hyphens are where they belong between groups of 8, 4, 4, 4 and 12 digits. -/
theorem unhyphenated?_groups {a b c d e : List Char} (ha : a.length = 8) (hb : b.length = 4) (hc : c.length = 4)
    (hd : d.length = 4) (he : e.length = 12) :
    unhyphenated? (a ++ '-' :: (b ++ '-' :: (c ++ '-' :: (d ++ '-' :: e)))) = some (a ++ (b ++ (c ++ (d ++ e)))) := by
  unfold unhyphenated?
  have hyphens : ([8, 13, 18, 23].all fun i => (a ++ '-' :: (b ++ '-' :: (c ++ '-' :: (d ++ '-' :: e))))[i]? == some '-') = true := by
    simp [List.getElem?_append, ha, hb, hc, hd]
  simp (disch := omega) [hyphens, List.drop_append, List.drop_of_length_le, ha, hb, hc, hd, he]

/-- A run identifier is read back from its text. -/
theorem parse?_print (id : RunId) : parse? id.print = some id := by
  have length : (id.digits.map printDigit).length = 32 := by rw [List.length_map, id.length_digits]
  have digits := ofChars?_printDigit id
  unfold parse? print
  generalize id.digits.map printDigit = cs at length digits
  have groups := unhyphenated?_groups (a := cs.take 8) (b := (cs.drop 8).take 4) (c := (cs.drop 12).take 4)
    (d := (cs.drop 16).take 4) (e := cs.drop 20) (by simp [length]) (by simp [length]) (by simp [length]) (by simp [length])
    (by simp [length])
  have group : ∀ n, (cs.drop n).take 4 ++ cs.drop (n + 4) = cs.drop n := by
    intro n
    rw [← List.drop_drop, List.take_append_drop]
  have joined : cs.take 8 ++ ((cs.drop 8).take 4 ++ ((cs.drop 12).take 4 ++ ((cs.drop 16).take 4 ++ cs.drop 20))) = cs := by
    rw [group 16, group 12, group 8, List.take_append_drop]
  rw [joined] at groups
  have long : (cs.take 8 ++ '-' :: ((cs.drop 8).take 4 ++ '-' :: ((cs.drop 12).take 4 ++ '-' ::
      ((cs.drop 16).take 4 ++ '-' :: cs.drop 20)))).length = 36 := by
    simp [length]
  simp only [String.toList_ofList, List.append_assoc, List.cons_append, long, unwrapped]
  simp [groups, digits]

end RunId

end ReleaseGate
