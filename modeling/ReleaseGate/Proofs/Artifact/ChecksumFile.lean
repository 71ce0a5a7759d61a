import ReleaseGate.Artifact.Checksums
import ReleaseGate.Files.Sha256

/-!
# The lines of a checksum file

What a checksum file says, line by line (`Records`), and what is kept of it: `records` are the names and digests of its lines in
order, and of several lines for one name the last is kept (`digest?_parse`). A file that was written for some artifacts records
each of them, if their names can stand on a line (`records_print`).
-/

namespace ReleaseGate.Checksums

open Text

/-! ## Lines -/

/-- Whether a line records a digest for a name: without the white space around it, it is the digest in either case of letters,
white space, and the name, before which stars may stand. -/
def Records (line : List Char) (name digest : String) : Prop :=
  ∃ written blank marked, trim line = written ++ blank :: marked ∧ (∀ c ∈ written, isBlank c = false) ∧ isBlank blank = true ∧
    trim marked ≠ [] ∧ name.toList = (trim marked).dropWhile (· == '*') ∧ digest.toList = lowerAscii written

/-- The name and the digest that are read from a line. -/
def recorded? (line : List Char) : Option (String × String) := entry? (trim line)

/-- What is read from a line is what it records. -/
theorem recorded?_eq_some_iff (line : List Char) (name digest : String) :
    recorded? line = some (name, digest) ↔ Records line name digest := by
  unfold recorded? entry?
  constructor
  · intro h
    split at h
    next written blank marked cut =>
      obtain ⟨whole, solid, isBlank_blank⟩ := cutAtFirst_eq_some cut
      dsimp only at h
      split at h
      next => cases h
      next named =>
        obtain ⟨rfl, rfl⟩ := Prod.mk.inj (Option.some.inj h)
        exact ⟨written, blank, marked, whole, solid, isBlank_blank, by simpa using named, String.toList_ofList,
          String.toList_ofList⟩
    next => cases h
  · rintro ⟨written, blank, marked, whole, solid, isBlank_blank, named, spelled, lowered⟩
    have inhabited : (trim marked).isEmpty = false := by simpa using named
    rw [whole, cutAtFirst_append solid isBlank_blank]
    simp [inhabited, ← spelled, ← lowered]

/-! ## Texts -/

/-- The names and digests that the lines of a text record, from the first line to the last. -/
def records (text : String) : List (String × String) := (lines text.toList).filterMap recorded?

/-- The entries with some records added one after another. -/
def recordAll (entries : List (String × String)) (records : List (String × String)) : List (String × String) :=
  records.foldl (fun entries r => insertEntry r.1 r.2 entries) entries

/-- Of several records for one name the last counts. -/
theorem lookup_recordAll (entries records : List (String × String)) (name : String) :
    (recordAll entries records).lookup name = (records.reverse.lookup name).or (entries.lookup name) := by
  induction records generalizing entries with
  | nil => rfl
  | cons r rest ih =>
    have first : (recordAll entries (r :: rest)) = recordAll (insertEntry r.1 r.2 entries) rest := rfl
    rw [first, ih, lookup_insertEntry, List.reverse_cons, List.lookup_append, Option.or_assoc]
    congr 1
    rw [List.lookup_cons]
    by_cases same : name = r.1
    · simp [same]
    · simp [same, beq_false_of_ne same]

/-- Whether a line has something on it and records nothing. -/
def IsMalformed (line : List Char) : Prop := trim line ≠ [] ∧ recorded? line = none

/-- What one more line does to a record. -/
theorem addLine_eq (c : Checksums) (line : List Char) :
    (addLine c line).entries = recordAll c.entries (recorded? line).toList ∧
      ((addLine c line).malformed = [] ↔ c.malformed = [] ∧ ¬IsMalformed line) := by
  unfold addLine IsMalformed recorded?
  dsimp only
  split
  next blank =>
    have nothing : trim line = [] := List.isEmpty_iff.mp blank
    rw [nothing]
    exact ⟨rfl, by simp⟩
  next filled =>
    cases e : entry? (trim line) with
    | none => simpa [recordAll] using fun _ => by simpa using filled
    | some record => simp [recordAll]

/-- A text is read by recording what its lines record, one after another; a line that records nothing and is not blank is kept. -/
theorem parse_eq (text : String) :
    (parse text).entries = recordAll [] (records text) ∧
      ((parse text).malformed = [] ↔ ∀ line ∈ lines text.toList, ¬IsMalformed line) := by
  have run : ∀ (ls : List (List Char)) (c : Checksums),
      (ls.foldl addLine c).entries = recordAll c.entries (ls.filterMap recorded?) ∧
        ((ls.foldl addLine c).malformed = [] ↔ c.malformed = [] ∧ ∀ line ∈ ls, ¬IsMalformed line) := by
    intro ls
    induction ls with
    | nil =>
      intro c
      simp [recordAll]
    | cons line ls ih =>
      intro c
      obtain ⟨entries, malformed⟩ := addLine_eq c line
      obtain ⟨later, laterMalformed⟩ := ih (addLine c line)
      refine ⟨?_, ?_⟩
      · rw [List.foldl_cons, later, entries]
        cases e : recorded? line with
        | none => simp [e, recordAll]
        | some record => simp [e, recordAll]
      · rw [List.foldl_cons, laterMalformed, malformed, List.forall_mem_cons, and_assoc]
  obtain ⟨entries, malformed⟩ := run (lines text.toList) {}
  exact ⟨entries, malformed.trans (and_iff_right rfl)⟩

/-- The digest that a text records for a name is the one that its lines record last. -/
theorem digest?_parse (text name : String) : (parse text).digest? name = (records text).reverse.lookup name := by
  unfold digest?
  rw [(parse_eq text).1, lookup_recordAll]
  simp

/-- A line records a name when no later line does: then its digest is the one of the name. -/
theorem digest?_parse_of_last {text name digest : String} {before after : List (List Char)} {line : List Char}
    (cut : lines text.toList = before ++ line :: after) (here : Records line name digest)
    (last : ∀ later ∈ after, ∀ d, ¬Records later name d) : (parse text).digest? name = some digest := by
  have read : recorded? line = some (name, digest) := (recorded?_eq_some_iff line name digest).mpr here
  have noneLater : (after.filterMap recorded?).reverse.lookup name = none := by
    refine List.lookup_eq_none_iff.mpr fun r hr => ?_
    obtain ⟨later, inside, recorded⟩ := List.mem_filterMap.mp (List.mem_reverse.mp hr)
    apply bne_iff_ne.mpr
    intro same
    refine last later inside r.2 ((recorded?_eq_some_iff later name r.2).mp ?_)
    rw [recorded, same]
  rw [digest?_parse, records, cut, List.filterMap_append, List.filterMap_cons_some read, List.reverse_append, List.reverse_cons,
    List.lookup_append, List.lookup_append, noneLater]
  simp

/-- The names that a text records are those that its lines do. -/
theorem mem_names_parse_iff {text name : String} : name ∈ (parse text).names ↔ ∃ digest, (name, digest) ∈ records text := by
  have kept : ∀ (rs entries : List (String × String)) (e : String × String), e ∈ recordAll entries rs → e ∈ entries ∨ e ∈ rs := by
    intro rs
    induction rs with
    | nil => exact fun entries e h => .inl h
    | cons r rs ih =>
      intro entries e h
      rcases ih _ e h with earlier | later
      · rcases mem_insertEntry earlier with rfl | old
        · exact .inr List.mem_cons_self
        · exact .inl old
      · exact .inr (List.mem_cons_of_mem r later)
  constructor
  · intro h
    obtain ⟨⟨n, digest⟩, inside, rfl⟩ := List.mem_map.mp h
    rw [(parse_eq text).1] at inside
    rcases kept (records text) [] (n, digest) inside with nothing | recorded
    · cases nothing
    · exact ⟨digest, recorded⟩
  · rintro ⟨digest, recorded⟩
    -- a name that some line records has the digest of the last line that does
    have known : (parse text).digest? name ≠ none := by
      rw [digest?_parse]
      intro missing
      have apart := List.lookup_eq_none_iff.mp missing (name, digest) (List.mem_reverse.mpr recorded)
      simp at apart
    obtain ⟨found, looked⟩ := Option.ne_none_iff_exists'.mp known
    obtain ⟨before, after, entries, -⟩ := List.lookup_eq_some_iff.mp looked
    refine List.mem_map.mpr ⟨(name, found), ?_, rfl⟩
    rw [entries]
    simp

/-! ## Files that were written -/

/-- Whether an artifact can be recorded on a line: its digest is a word in lower case, and its name is one line without white
space around it and without a star before it. -/
structure IsRecordable (a : Artifact) : Prop where
  hasDigest : a.sha256.toList ≠ []
  solid : ∀ c ∈ a.sha256.toList, isBlank c = false
  lower : lowerAscii a.sha256.toList = a.sha256.toList
  named : a.fileName.toList ≠ []
  oneLine : '\n' ∉ a.fileName.toList
  trimmed : trim a.fileName.toList = a.fileName.toList
  unmarked : '*' ∉ a.fileName.toList.head?

/-- Whether a text is a number in lower-case hexadecimal digits. -/
structure IsHex (s : String) : Prop where
  inhabited : s ≠ ""
  digits : ∀ c ∈ s.toList, ∃ n : Fin 16, c = Nat.digitChar n

theorem isHex_hexDigest (bytes : List UInt8) : IsHex (Sha256.hexDigest bytes) := by
  refine ⟨?_, fun c hc => Sha256.exists_digitChar_of_mem_hexDigest hc⟩
  intro empty
  have length := Sha256.length_hexDigest bytes
  rw [empty] at length
  cases length

theorem IsHex.solid {s : String} (h : IsHex s) : ∀ c ∈ s.toList, isBlank c = false := by
  have solid : ∀ n : Fin 16, isBlank (Nat.digitChar n) = false := by decide
  intro c hc
  obtain ⟨n, rfl⟩ := h.digits c hc
  exact solid n

theorem IsHex.lower {s : String} (h : IsHex s) : lowerAscii s.toList = s.toList := by
  have lower : ∀ n : Fin 16, (Nat.digitChar n).toLower = Nat.digitChar n := by decide
  refine (List.map_congr_left fun c hc => ?_).trans (List.map_id _)
  obtain ⟨n, rfl⟩ := h.digits c hc
  exact lower n

/-- A file whose digest is in hexadecimal can be recorded, if its name can. -/
theorem isRecordable_of_isHex {a : Artifact} (hex : IsHex a.sha256) (named : a.fileName.toList ≠ [])
    (oneLine : '\n' ∉ a.fileName.toList) (trimmed : trim a.fileName.toList = a.fileName.toList)
    (unmarked : '*' ∉ a.fileName.toList.head?) : IsRecordable a :=
  ⟨by simpa using hex.inhabited, hex.solid, hex.lower, named, oneLine, trimmed, unmarked⟩

/-- A file whose digest was taken can be recorded, if its name can. -/
theorem isRecordable_of_hexDigest {a : Artifact} {bytes : List UInt8} (digest : a.sha256 = Sha256.hexDigest bytes)
    (named : a.fileName.toList ≠ []) (oneLine : '\n' ∉ a.fileName.toList) (trimmed : trim a.fileName.toList = a.fileName.toList)
    (unmarked : '*' ∉ a.fileName.toList.head?) : IsRecordable a :=
  isRecordable_of_isHex (digest ▸ isHex_hexDigest bytes) named oneLine trimmed unmarked

/-- The line for an artifact, without its end. -/
def row (a : Artifact) : List Char := a.sha256.toList ++ ' ' :: ' ' :: a.fileName.toList

theorem printLine_eq (a : Artifact) : printLine a = row a ++ ['\n'] := by
  simp [printLine, row]

theorem IsRecordable.row_ends {a : Artifact} (h : IsRecordable a) :
    (∀ c ∈ (row a).head?, isBlank c = false) ∧ ∀ c ∈ (row a).getLast?, isBlank c = false := by
  obtain ⟨d, ds, digest⟩ := List.exists_cons_of_ne_nil h.hasDigest
  obtain ⟨-, last⟩ := (trim_eq_self_iff a.fileName.toList).mp h.trimmed
  constructor
  · intro c hc
    obtain rfl : d = c := by simpa [row, digest] using hc
    exact h.solid d (by simp [digest])
  · intro c hc
    have inName : c ∈ a.fileName.toList.getLast? := by
      obtain ⟨n, ns, name⟩ := List.exists_cons_of_ne_nil h.named
      simpa [row, name] using hc
    exact last c inName

theorem IsRecordable.trim_row {a : Artifact} (h : IsRecordable a) : trim (row a) = row a :=
  (trim_eq_self_iff (row a)).mpr h.row_ends

/-- The line for an artifact records it. -/
theorem IsRecordable.records_row {a : Artifact} (h : IsRecordable a) : Records (row a) a.fileName a.sha256 := by
  have name : trim (' ' :: a.fileName.toList) = a.fileName.toList := (trim_cons_of_blank (by decide) _).trans h.trimmed
  have noStar : a.fileName.toList.dropWhile (· == '*') = a.fileName.toList := by
    obtain ⟨n, ns, spelled⟩ := List.exists_cons_of_ne_nil h.named
    have first : n ≠ '*' := by
      rintro rfl
      exact h.unmarked (by simp [spelled])
    simp [spelled, first]
  refine ⟨a.sha256.toList, ' ', ' ' :: a.fileName.toList, h.trim_row, h.solid, by decide, ?_, ?_, h.lower.symm⟩
  · rw [name]
    exact h.named
  · rw [name, noStar]

/-- A checksum file has a line for each artifact, as long as none of them is broken by a newline. -/
theorem lines_print_of_oneLine {artifacts : List Artifact} (oneLine : ∀ a ∈ artifacts, '\n' ∉ row a) :
    lines (print artifacts).toList = artifacts.map fun a => dropCarriageReturn (row a) := by
  have text : (print artifacts).toList = artifacts.flatMap printLine := String.toList_ofList
  rw [text]
  induction artifacts with
  | nil => rfl
  | cons a rest ih =>
    obtain ⟨first, later⟩ := List.forall_mem_cons.mp oneLine
    have tail := ih later String.toList_ofList
    rw [List.flatMap_cons, printLine_eq, List.append_assoc, List.singleton_append, lines_append first, tail, List.map_cons]

/-- The line for an artifact is one line when its name is. -/
theorem newline_not_mem_row {a : Artifact} (solid : ∀ c ∈ a.sha256.toList, isBlank c = false) (oneLine : '\n' ∉ a.fileName.toList) :
    '\n' ∉ row a := by
  have blank : isBlank '\n' = true := by decide
  intro newline
  rcases List.mem_append.mp newline with inDigest | inRest
  · rw [solid _ inDigest] at blank
    cases blank
  · have inName : '\n' ∈ a.fileName.toList := by simpa using inRest
    exact oneLine inName

/-- The lines of a checksum file are those of its artifacts. -/
theorem lines_print {artifacts : List Artifact} (recordable : ∀ a ∈ artifacts, IsRecordable a) :
    lines (print artifacts).toList = artifacts.map row := by
  have oneLine : ∀ a ∈ artifacts, '\n' ∉ row a := fun a ha =>
    newline_not_mem_row (recordable a ha).solid (recordable a ha).oneLine
  have noReturn : ∀ a ∈ artifacts, dropCarriageReturn (row a) = row a := by
    intro a ha
    refine dropCarriageReturn_eq_self fun last => ?_
    have blank : isBlank '\r' = true := by decide
    rw [(recordable a ha).row_ends.2 _ last] at blank
    cases blank
  rw [lines_print_of_oneLine oneLine, List.map_congr_left noReturn]

/-- A checksum file records its artifacts, in order. -/
theorem records_print {artifacts : List Artifact} (recordable : ∀ a ∈ artifacts, IsRecordable a) :
    records (print artifacts) = artifacts.map fun a => (a.fileName, a.sha256) := by
  unfold records
  rw [lines_print recordable]
  induction artifacts with
  | nil => rfl
  | cons a rest ih =>
    obtain ⟨first, later⟩ := List.forall_mem_cons.mp recordable
    have read := (recorded?_eq_some_iff (row a) a.fileName a.sha256).mpr first.records_row
    simp [read, ih later]

/-- No line of a checksum file is malformed. -/
theorem malformed_parse_print {artifacts : List Artifact} (recordable : ∀ a ∈ artifacts, IsRecordable a) :
    (parse (print artifacts)).malformed = [] := by
  rw [(parse_eq _).2, lines_print recordable]
  rintro line inside ⟨-, nothing⟩
  obtain ⟨a, ha, rfl⟩ := List.mem_map.mp inside
  rw [(recorded?_eq_some_iff (row a) a.fileName a.sha256).mpr (recordable a ha).records_row] at nothing
  cases nothing

end ReleaseGate.Checksums
