import ReleaseGate.Json.Printer
import ReleaseGate.Json.Reader
import ReleaseGate.Proofs.Text.Decimal

/-!
# What is written is read again

A value that holds no other numbers than unsigned integers is read back from its text, whatever its layout (`parse?_print`). The
reader is given twice as many calls as the text has characters, and every call reads a character or is followed by one that does,
so it never runs out of them on a text that was written.
-/

namespace ReleaseGate.Json

open Text.Decimal

/-! ## Texts -/

/-- A control character is written with the two digits of its code point. -/
theorem hexQuad?_hexDigits {n : Nat} (control : n < 0x20) :
    hexQuad? '0' '0' (hexDigit (n / 16)) (hexDigit (n % 16)) = some n := by
  have all : ∀ i : Fin 0x20, hexQuad? '0' '0' (hexDigit (i / 16)) (hexDigit (i % 16)) = some i.val := by decide
  exact all ⟨n, control⟩

theorem readText_plain {c : Char} (noQuote : c ≠ '"') (noBackslash : c ≠ '\\') (noControl : ¬c.toNat < 0x20) (s : List Char) :
    readText (c :: s) = (readText s).map fun (cs, r) => (c :: cs, r) := by
  rw [readText]
  · have read : (decide (c.toNat < 0x20) || c == '\\') = false := by simp [noControl, noBackslash]
    rw [if_neg (by simp [read])]
  · exact noQuote
  · intro _ _ _ _ _ e
    exact absurd e noBackslash
  · intro _ _ e
    exact absurd e noBackslash

/-- A character is read from what it is written as. -/
theorem readText_escapeChar (c : Char) (s : List Char) :
    readText (escapeChar c ++ s) = (readText s).map fun (cs, r) => (c :: cs, r) := by
  by_cases quote : c = '"'
  · subst quote
    simp [escapeChar, readText, unescape?]
  by_cases backslash : c = '\\'
  · subst backslash
    simp [escapeChar, readText, unescape?]
  by_cases backspace : c = '\x08'
  · subst backspace
    simp [escapeChar, readText, unescape?]
  by_cases formFeed : c = '\x0c'
  · subst formFeed
    simp [escapeChar, readText, unescape?]
  by_cases newline : c = '\n'
  · subst newline
    simp [escapeChar, readText, unescape?]
  by_cases carriageReturn : c = '\r'
  · subst carriageReturn
    simp [escapeChar, readText, unescape?]
  by_cases tab : c = '\t'
  · subst tab
    simp [escapeChar, readText, unescape?]
  have written : escapeChar c =
      if c.toNat < 0x20 then ['\\', 'u', '0', '0', hexDigit (c.toNat / 16), hexDigit (c.toNat % 16)] else [c] := by
    unfold escapeChar
    split <;> simp_all
  rw [written]
  by_cases control : c.toNat < 0x20
  · have low : isLowSurrogate c.toNat = false := by simp [isLowSurrogate]; omega
    have high : isHighSurrogate c.toNat = false := by simp [isHighSurrogate]; omega
    rw [if_pos control]
    simp [readText, hexQuad?_hexDigits control, low, high, Char.ofNat_toNat]
  · rw [if_neg control]
    exact readText_plain quote backslash control s

/-- A text is read from what it is written as, up to the quote that closes it. -/
theorem readText_escaped (s rest : List Char) : readText (s.flatMap escapeChar ++ '"' :: rest) = some (s, rest) := by
  induction s with
  | nil => rfl
  | cons c s ih => rw [List.flatMap_cons, List.append_assoc, readText_escapeChar, ih, Option.map_some]

/-! ## Numbers -/

/-- Whether a text does not go on with the number that stands before it. -/
def EndsNumber (s : List Char) : Prop := ∀ c ∈ s.head?, c.isDigit = false ∧ c ≠ '.' ∧ c ≠ 'e' ∧ c ≠ 'E'

theorem endsNumber_cons {c : Char} (h : c.isDigit = false ∧ c ≠ '.' ∧ c ≠ 'e' ∧ c ≠ 'E') (s : List Char) :
    EndsNumber (c :: s) := by
  intro d hd
  obtain rfl : c = d := by simpa using hd
  exact h

theorem fraction?_of_endsNumber {s : List Char} (ends : EndsNumber s) : fraction? s = some ([], s) := by
  cases s with
  | nil => rfl
  | cons c s =>
    have noPoint : c ≠ '.' := (ends c rfl).2.1
    rw [fraction?]
    intro rest e
    exact noPoint (List.cons.inj e).1

theorem exponent?_of_endsNumber {s : List Char} (ends : EndsNumber s) : exponent? s = some ([], s) := by
  cases s with
  | nil => rfl
  | cons c s =>
    obtain ⟨-, -, lower, upper⟩ := ends c rfl
    simp [exponent?, lower, upper]

/-- The digits before something that is none. -/
theorem digits?_append {ds s : List Char} (some_digit : ds ≠ []) (digits : ∀ d ∈ ds, d.isDigit = true) (ends : EndsNumber s) :
    digits? (ds ++ s) = some (ds, s) := by
  have noDigit : s.takeWhile Char.isDigit = [] ∧ s.dropWhile Char.isDigit = s := by
    cases s with
    | nil => exact ⟨rfl, rfl⟩
    | cons c s => simp [(ends c rfl).1]
  have taken : (ds ++ s).takeWhile Char.isDigit = ds := by
    rw [List.takeWhile_append_of_pos digits, noDigit.1, List.append_nil]
  have dropped : (ds ++ s).dropWhile Char.isDigit = s := by
    rw [List.dropWhile_append_of_pos digits, noDigit.2]
  unfold digits?
  rw [taken, dropped, if_neg (by simpa using some_digit)]

theorem digitsValue_toDigits (n : Nat) : digitsValue (Nat.toDigits 10 n) = n := valueFrom_toDigits n

/-- The digits of a number are read as its integer part. -/
theorem integer?_toDigits (n : Nat) {s : List Char} (ends : EndsNumber s) :
    integer? (Nat.toDigits 10 n ++ s) = some (Nat.toDigits 10 n, s) := by
  by_cases zero : n = 0
  · subst zero
    rfl
  have digits : ∀ d ∈ Nat.toDigits 10 n, d.isDigit = true := fun d => isDigit_of_mem_toDigits
  have read := digits?_append Nat.toDigits_ne_nil digits ends
  obtain ⟨d, ds, front, -⟩ := exists_toDigits_eq_cons n
  have noZero : d ≠ '0' := by
    rintro rfl
    exact toDigits_ne_zero_cons (Nat.pos_of_ne_zero zero) ds front
  rw [front, List.cons_append] at read ⊢
  rw [integer?, read]
  intro rest e
  exact noZero (List.cons.inj e).1

/-- An unsigned integer is read up to the end of its digits. -/
theorem readNumber_toDigits (n : Nat) {s : List Char} (ends : EndsNumber s) :
    readNumber (Nat.toDigits 10 n ++ s) = some (natural n, s) := by
  have whole := integer?_toDigits n ends
  have value := digitsValue_toDigits n
  obtain ⟨d, ds, front, digit⟩ := exists_toDigits_eq_cons n
  have noSign : d ≠ '-' := by
    rintro rfl
    cases digit
  rw [front, List.cons_append] at whole ⊢
  rw [front] at value
  unfold readNumber
  split
  next sign unsigned h =>
    split at h
    next rest e => exact absurd (List.cons.inj e).1 noSign
    next =>
      obtain ⟨rfl, rfl⟩ := Prod.mk.inj h
      simp [whole, fraction?_of_endsNumber ends, exponent?_of_endsNumber ends, value]

/-! ## Values -/

/-- Whether a value holds no numbers but unsigned integers. -/
inductive Plain : Json → Prop where
  | null : Plain null
  | bool (b : Bool) : Plain (bool b)
  | natural (n : Nat) : Plain (natural n)
  | str (s : String) : Plain (str s)
  | array {items : List Json} (each : ∀ item ∈ items, Plain item) : Plain (array items)
  | object {members : List (String × Json)} (each : ∀ m ∈ members, Plain m.2) : Plain (object members)

theorem isSpace_of_isDigit {c : Char} (h : c.isDigit = true) : isSpace c = false := by
  apply Bool.eq_false_iff.mpr
  intro space
  simp only [isSpace, Bool.or_eq_true, beq_iff_eq] at space
  rcases space with ((rfl | rfl) | rfl) | rfl
  all_goals cases h

theorem skipSpaces_cons {c : Char} (h : isSpace c = false) (s : List Char) : skipSpaces (c :: s) = c :: s := by
  simp [skipSpaces, h]

/-- A line break is skipped. -/
theorem skipSpaces_lineBreak (layout : Layout) (s : List Char) : skipSpaces (layout.lineBreak ++ s) = skipSpaces s := by
  have blanks : ∀ n, skipSpaces (List.replicate n ' ' ++ s) = skipSpaces s := by
    intro n
    induction n with
    | zero => rfl
    | succ n ih => exact ih
  cases layout with
  | compact => rfl
  | spread level => exact blanks (2 * level)

/-- What a value is written as begins with no space, and not with the bracket that ends an array. -/
theorem exists_print_eq_cons {j : Json} (plain : Plain j) (layout : Layout) :
    ∃ c cs, print layout j = c :: cs ∧ isSpace c = false ∧ c ≠ ']' := by
  cases plain with
  | null => exact ⟨'n', _, by rw [print], by decide, by decide⟩
  | bool b =>
    cases b with
    | true => exact ⟨'t', _, by rw [print], by decide, by decide⟩
    | false => exact ⟨'f', _, by rw [print], by decide, by decide⟩
  | natural n =>
    obtain ⟨d, ds, front, digit⟩ := exists_toDigits_eq_cons n
    have noBracket : d ≠ ']' := by
      rintro rfl
      cases digit
    exact ⟨d, ds, by rw [print, front], isSpace_of_isDigit digit, noBracket⟩
  | str text => exact ⟨'"', _, by rw [print, printText]; rfl, by decide, by decide⟩
  | array each =>
    rename_i items
    cases items with
    | nil => exact ⟨'[', _, by rw [print], by decide, by decide⟩
    | cons item items => exact ⟨'[', _, by rw [print]; rfl, by decide, by decide⟩
  | object each =>
    rename_i members
    cases members with
    | nil => exact ⟨'\x7b', _, by rw [print], by decide, by decide⟩
    | cons m members => exact ⟨'\x7b', _, by rw [print]; rfl, by decide, by decide⟩

theorem skipSpaces_print {j : Json} (plain : Plain j) (layout : Layout) (s : List Char) :
    skipSpaces (print layout j ++ s) = print layout j ++ s := by
  obtain ⟨c, cs, front, noSpace, -⟩ := exists_print_eq_cons plain layout
  rw [front, List.cons_append, skipSpaces_cons noSpace]

theorem endsNumber_lineBreak (layout : Layout) {s : List Char} (ends : EndsNumber s) : EndsNumber (layout.lineBreak ++ s) := by
  cases layout with
  | compact => exact ends
  | spread level => exact endsNumber_cons (by decide) _

theorem readValue_lineBreak (layout : Layout) (fuel : Nat) (s : List Char) :
    readValue fuel (layout.lineBreak ++ s) = readValue fuel s := by
  cases fuel with
  | zero => rfl
  | succ fuel => rw [readValue, readValue, skipSpaces_lineBreak]

theorem readItems_lineBreak (layout : Layout) (fuel : Nat) (s : List Char) :
    readItems fuel (layout.lineBreak ++ s) = readItems fuel s := by
  cases fuel with
  | zero => rfl
  | succ fuel => rw [readItems, readItems, readValue_lineBreak]

theorem readMembers_lineBreak (layout : Layout) (fuel : Nat) (s : List Char) :
    readMembers fuel (layout.lineBreak ++ s) = readMembers fuel s := by
  cases fuel with
  | zero => rfl
  | succ fuel => rw [readMembers, readMembers, skipSpaces_lineBreak]

/-- Whether a value is read back from its text with twice as many calls as the text has characters. -/
def IsReadBack (j : Json) : Prop :=
  ∀ layout fuel rest, 2 * (print layout j).length ≤ fuel → EndsNumber rest →
    readValue fuel (print layout j ++ rest) = some (j, rest)

/-- The items of an array are read back up to its end. -/
theorem readItems_print (layout outer : Layout) (rest : List Char) (items : List Json) :
    ∀ item fuel, (∀ i ∈ item :: items, IsReadBack i) →
      2 * (print layout item ++ printItems layout items).length + 1 ≤ fuel →
      readItems fuel (print layout item ++ (printItems layout items ++ (outer.lineBreak ++ ']' :: rest))) =
        some (item :: items, rest) := by
  have closes : EndsNumber (']' :: rest) := endsNumber_cons (by decide) rest
  have bracket : skipSpaces (']' :: rest) = ']' :: rest := skipSpaces_cons (by decide) rest
  induction items with
  | nil =>
    intro item fuel each room
    rw [printItems, List.append_nil] at room
    obtain ⟨fuel, rfl⟩ : ∃ k, fuel = k + 1 := ⟨fuel - 1, by omega⟩
    have read := each item List.mem_cons_self layout fuel _ (by omega) (endsNumber_lineBreak outer closes)
    rw [printItems, List.nil_append, readItems, read]
    simp only [skipSpaces_lineBreak, bracket]
  | cons next items ih =>
    intro item fuel each room
    rw [printItems] at room ⊢
    simp only [List.length_append, List.length_cons] at room
    obtain ⟨fuel, rfl⟩ : ∃ k, fuel = k + 1 := ⟨fuel - 1, by omega⟩
    have later := ih next fuel (fun i hi => each i (List.mem_cons_of_mem _ hi)) (by simp only [List.length_append]; omega)
    have read := each item List.mem_cons_self layout fuel
      (',' :: (layout.lineBreak ++ (print layout next ++ (printItems layout items ++ (outer.lineBreak ++ ']' :: rest)))))
      (by omega) (endsNumber_cons (by decide) _)
    have comma : ∀ s, skipSpaces (',' :: s) = ',' :: s := skipSpaces_cons (by decide)
    rw [readItems]
    simp only [List.cons_append, List.append_assoc]
    rw [read]
    simp only [comma, readItems_lineBreak, later, Option.map_some]

theorem colon_inner (layout : Layout) : layout.inner.colon = layout.colon := by cases layout <;> rfl

/-- What stands after a colon is skipped. -/
theorem exists_colon_eq (layout : Layout) :
    ∃ gap, layout.colon = ':' :: gap ∧ ∀ fuel s, readValue fuel (gap ++ s) = readValue fuel s := by
  cases layout with
  | compact => exact ⟨[], rfl, fun _ _ => rfl⟩
  | spread level =>
    refine ⟨[' '], rfl, fun fuel s => ?_⟩
    cases fuel with
    | zero => rfl
    | succ fuel => rfl

/-- The members of an object are read back up to its end. -/
theorem readMembers_print (layout outer : Layout) (rest : List Char) (members : List (String × Json)) :
    ∀ name value fuel, (∀ m ∈ (name, value) :: members, IsReadBack m.2) →
      2 * (print layout value ++ printMembers layout members).length + 1 ≤ fuel →
      readMembers fuel (printText name ++ (layout.colon ++ (print layout value ++
          (printMembers layout members ++ (outer.lineBreak ++ '\x7d' :: rest))))) =
        some ((name, value) :: members, rest) := by
  have closes : EndsNumber ('\x7d' :: rest) := endsNumber_cons (by decide) rest
  have brace : skipSpaces ('\x7d' :: rest) = '\x7d' :: rest := skipSpaces_cons (by decide) rest
  have quote : ∀ s, skipSpaces ('"' :: s) = '"' :: s := skipSpaces_cons (by decide)
  have colon : ∀ s, skipSpaces (':' :: s) = ':' :: s := skipSpaces_cons (by decide)
  have comma : ∀ s, skipSpaces (',' :: s) = ',' :: s := skipSpaces_cons (by decide)
  obtain ⟨gap, spelled, skipped⟩ := exists_colon_eq layout
  induction members with
  | nil =>
    intro name value fuel each room
    rw [printMembers, List.append_nil] at room
    obtain ⟨fuel, rfl⟩ : ∃ k, fuel = k + 1 := ⟨fuel - 1, by omega⟩
    have first : IsReadBack value := each (name, value) List.mem_cons_self
    have read := first layout fuel _ (by omega) (endsNumber_lineBreak outer closes)
    rw [printMembers, List.nil_append, printText, spelled, readMembers]
    simp only [List.cons_append, List.append_assoc, List.nil_append]
    simp only [quote, readText_escaped, colon, skipped, read, skipSpaces_lineBreak, brace, String.ofList_toList]
  | cons next members ih =>
    obtain ⟨nextName, nextValue⟩ := next
    intro name value fuel each room
    rw [printMembers] at room ⊢
    simp only [List.length_append, List.length_cons] at room
    obtain ⟨fuel, rfl⟩ : ∃ k, fuel = k + 1 := ⟨fuel - 1, by omega⟩
    have later := ih nextName nextValue fuel (fun m hm => each m (List.mem_cons_of_mem _ hm))
      (by simp only [List.length_append]; omega)
    have first : IsReadBack value := each (name, value) List.mem_cons_self
    have read := fun s => first layout fuel (',' :: s) (by omega) (endsNumber_cons (by decide) s)
    rw [printText, spelled, readMembers]
    rw [spelled] at later
    simp only [List.cons_append, List.append_assoc, List.nil_append] at later ⊢
    simp only [quote, readText_escaped, colon, skipped, read, comma, readMembers_lineBreak, later, String.ofList_toList,
      Option.map_some]

/-- No value is written as nothing, so there is always a call to read it. -/
theorem isReadBack_of_succ {j : Json} (plain : Plain j)
    (h : ∀ layout fuel rest, 2 * (print layout j).length ≤ fuel + 1 → EndsNumber rest →
      readValue (fuel + 1) (print layout j ++ rest) = some (j, rest)) : IsReadBack j := by
  intro layout fuel rest room ends
  obtain ⟨c, cs, front, -, -⟩ := exists_print_eq_cons plain layout
  have inhabited : 0 < (print layout j).length := by simp [front]
  obtain ⟨fuel, rfl⟩ : ∃ k, fuel = k + 1 := ⟨fuel - 1, by omega⟩
  exact h layout fuel rest room ends

/-- What begins with a digit is read as a number. -/
theorem readValue_digit {d : Char} (digit : d.isDigit = true) (fuel : Nat) (s : List Char) :
    readValue (fuel + 1) (d :: s) = readNumber (d :: s) := by
  have other : ∀ c : Char, c.isDigit = false → d ≠ c := by
    rintro c no rfl
    rw [digit] at no
    cases no
  rw [readValue, skipSpaces_cons (isSpace_of_isDigit digit)]
  split
  next e => exact absurd (List.cons.inj e).1 (other 'n' (by decide))
  next e => exact absurd (List.cons.inj e).1 (other 't' (by decide))
  next e => exact absurd (List.cons.inj e).1 (other 'f' (by decide))
  next e => exact absurd (List.cons.inj e).1 (other '"' (by decide))
  next e => exact absurd (List.cons.inj e).1 (other '[' (by decide))
  next e => exact absurd (List.cons.inj e).1 (other '\x7b' (by decide))
  next => rfl

/-- Every value is read back, by induction on it: the items and members inside it are. -/
theorem isReadBack_of_plain {j : Json} (plain : Plain j) : IsReadBack j := by
  induction plain with
  | null => exact isReadBack_of_succ .null fun layout fuel rest room ends => rfl
  | bool b =>
    refine isReadBack_of_succ (.bool b) fun layout fuel rest room ends => ?_
    cases b <;> rfl
  | natural n =>
    refine isReadBack_of_succ (.natural n) fun layout fuel rest room ends => ?_
    have read := readNumber_toDigits n ends
    obtain ⟨d, ds, front, digit⟩ := exists_toDigits_eq_cons n
    rw [front, List.cons_append] at read
    rw [print, front, List.cons_append, readValue_digit digit, read]
  | str text =>
    refine isReadBack_of_succ (.str text) fun layout fuel rest room ends => ?_
    have quote : ∀ s, skipSpaces ('"' :: s) = '"' :: s := skipSpaces_cons (by decide)
    rw [print, printText, readValue]
    simp only [List.cons_append, List.append_assoc, List.nil_append, quote, readText_escaped, Option.map_some,
      String.ofList_toList]
  | array each ih =>
    rename_i items
    refine isReadBack_of_succ (.array each) fun layout fuel rest room ends => ?_
    have bracket : ∀ s, skipSpaces ('[' :: s) = '[' :: s := skipSpaces_cons (by decide)
    cases items with
    | nil => rfl
    | cons item items =>
      rw [print] at room ⊢
      simp only [List.length_append, List.length_cons] at room
      have read := readItems_print layout.inner layout rest items item fuel ih (by simp only [List.length_append]; omega)
      have skipped := skipSpaces_print (each item List.mem_cons_self) layout.inner
      obtain ⟨c, cs, front, -, noBracket⟩ := exists_print_eq_cons (each item List.mem_cons_self) layout.inner
      rw [readValue]
      simp only [List.cons_append, List.append_assoc, List.nil_append, bracket, skipSpaces_lineBreak, skipped]
      rw [front] at read ⊢
      simp only [List.cons_append] at read ⊢
      split
      next e => exact absurd (List.cons.inj e).1 noBracket
      next => rw [read, Option.map_some]
  | object each ih =>
    rename_i members
    refine isReadBack_of_succ (.object each) fun layout fuel rest room ends => ?_
    have brace : ∀ s, skipSpaces ('\x7b' :: s) = '\x7b' :: s := skipSpaces_cons (by decide)
    have quote : ∀ s, skipSpaces ('"' :: s) = '"' :: s := skipSpaces_cons (by decide)
    cases members with
    | nil => rfl
    | cons m members =>
      obtain ⟨name, value⟩ := m
      rw [print] at room ⊢
      simp only [List.length_append, List.length_cons] at room
      have read := readMembers_print layout.inner layout rest members name value fuel ih
        (by simp only [List.length_append]; omega)
      rw [readValue]
      rw [printText, colon_inner] at read
      rw [printText]
      simp only [List.cons_append, List.append_assoc, List.nil_append] at read ⊢
      simp only [brace, skipSpaces_lineBreak, quote]
      split
      next e => exact absurd (List.cons.inj e).1 (by decide)
      next => rw [read, Option.map_some]

/-- A value is read back from its text, in every layout, also where blanks follow. -/
theorem parse?_print_append {j : Json} (plain : Plain j) (layout : Layout) {rest : List Char} (ends : EndsNumber rest)
    (blank : skipSpaces rest = []) : parse? (String.ofList (print layout j ++ rest)) = some j := by
  have read := isReadBack_of_plain plain layout (2 * (print layout j ++ rest).length + 2) rest
    (by rw [List.length_append]; omega) ends
  unfold parse?
  rw [String.toList_ofList, read]
  simp [blank]

theorem parse?_print {j : Json} (plain : Plain j) (layout : Layout) : parse? (String.ofList (print layout j)) = some j := by
  have nothing : EndsNumber [] := nofun
  have read := parse?_print_append plain layout nothing rfl
  rwa [List.append_nil] at read

/-- A value is read back from its text when a newline ends it. -/
theorem parse?_pretty_newline {j : Json} (plain : Plain j) : parse? (j.pretty ++ "\n") = some j := by
  have whole : j.pretty ++ "\n" = String.ofList (print (.spread 0) j ++ ['\n']) := by
    apply String.toList_injective
    simp [pretty]
  rw [whole]
  exact parse?_print_append plain _ (endsNumber_cons (by decide) []) rfl

end ReleaseGate.Json
