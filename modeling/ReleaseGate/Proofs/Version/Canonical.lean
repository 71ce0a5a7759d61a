import ReleaseGate.Proofs.Text.Decimal
import ReleaseGate.Proofs.Version.Components

/-!
# The shape of canonical versions

The canonical form of a version is the spelling of its parts, whatever the version's own spelling is: every text in the grammar has
parts. It consists of digits, dots, the mark of an epoch and some lower-case letters, and it begins and ends with a digit. So no
separator of file names stands in it, and no extension of a file is its end.
-/

namespace ReleaseGate

open Text

namespace Parts

/-- The characters of canonical versions. -/
def isCanonical (c : Char) : Bool :=
  c.isDigit || ['.', '!', 'a', 'b', 'r', 'c', 'p', 'o', 's', 't', 'd', 'e', 'v'].contains c

/-- A text with a digit at its end. -/
def EndsInDigit (s : List Char) : Prop := ∃ before d, d.isDigit = true ∧ s = before ++ [d]

theorem isDigit_of_mem_decimal {n : Nat} {c : Char} (h : c ∈ decimal n) : c.isDigit = true :=
  Decimal.isDigit_of_mem_toDigits h

theorem endsInDigit_decimal (n : Nat) : EndsInDigit (decimal n) := by
  have some_digit : decimal n ≠ [] := Nat.toDigits_ne_nil
  refine ⟨_, _, isDigit_of_mem_decimal (List.getLast_mem some_digit), (List.dropLast_concat_getLast some_digit).symm⟩

theorem EndsInDigit.append_left {s : List Char} (t : List Char) (h : EndsInDigit s) : EndsInDigit (t ++ s) := by
  obtain ⟨before, d, digit, rfl⟩ := h
  exact ⟨t ++ before, d, digit, by rw [List.append_assoc]⟩

theorem EndsInDigit.append {s t : List Char} (h : EndsInDigit s) (ht : t = [] ∨ EndsInDigit t) : EndsInDigit (s ++ t) := by
  rcases ht with rfl | ht
  · rwa [List.append_nil]
  · exact ht.append_left s

/-- The spelling of some parts ends in a digit: each of its pieces does. -/
theorem endsInDigit_print (p : Parts) : EndsInDigit p.print := by
  have minors : p.minors.flatMap printMinor = [] ∨ EndsInDigit (p.minors.flatMap printMinor) := by
    induction p.minors with
    | nil => exact .inl rfl
    | cons n minors ih =>
      have first : EndsInDigit (printMinor n) := (endsInDigit_decimal n).append_left ['.']
      exact .inr (first.append ih)
  refine EndsInDigit.append (.append (.append (.append ?_ minors) ?_) ?_) ?_
  · exact (endsInDigit_decimal p.major).append_left _
  · cases p.pre with
    | none => exact .inl rfl
    | some pre => exact .inr ((endsInDigit_decimal pre.2).append_left _)
  · cases p.post with
    | none => exact .inl rfl
    | some n => exact .inr ((endsInDigit_decimal n).append_left _)
  · cases p.dev with
    | none => exact .inl rfl
    | some n => exact .inr ((endsInDigit_decimal n).append_left _)

/-- The spelling of some parts begins with a digit: that of the epoch, if it is printed, or else that of the release. -/
theorem exists_print_eq_cons (p : Parts) : ∃ d rest, p.print = d :: rest ∧ d.isDigit = true := by
  obtain ⟨e, es, epoch, ofEpoch⟩ := Decimal.exists_toDigits_eq_cons p.epoch
  obtain ⟨m, ms, major, ofMajor⟩ := Decimal.exists_toDigits_eq_cons p.major
  unfold print decimal
  rw [epoch, major]
  split
  · exact ⟨m, _, rfl, ofMajor⟩
  · exact ⟨e, _, rfl, ofEpoch⟩

/-- The spelling of some parts holds canonical characters only. -/
theorem isCanonical_of_mem_print {p : Parts} {c : Char} (h : c ∈ p.print) : isCanonical c = true := by
  have number : ∀ n, ∀ d ∈ decimal n, isCanonical d = true := by
    intro n d hd
    rw [isCanonical, isDigit_of_mem_decimal hd, Bool.true_or]
  have labelled : ∀ label : List Char, label.all isCanonical = true → ∀ n, ∀ d ∈ label ++ decimal n, isCanonical d = true :=
    fun label all n => List.forall_mem_append.mpr ⟨List.all_eq_true.mp all, number n⟩
  revert c
  unfold print
  simp only [List.forall_mem_append, and_assoc]
  refine ⟨?_, number p.major, ?_, ?_, ?_, ?_⟩
  · split
    · exact nofun
    · exact List.forall_mem_append.mpr ⟨number p.epoch, List.all_eq_true.mp (by decide)⟩
  · intro c hc
    obtain ⟨n, -, hn⟩ := List.mem_flatMap.mp hc
    exact labelled ['.'] (by decide) n c hn
  · cases p.pre with
    | none => exact nofun
    | some pre => exact labelled _ (by cases pre.1 <;> decide) pre.2
  · cases p.post with
    | none => exact nofun
    | some n => exact labelled _ (by decide) n
  · cases p.dev with
    | none => exact nofun
    | some n => exact labelled _ (by decide) n

end Parts

namespace Version

/-- The text of a version is a spelling of it. -/
theorem parse_text (v : Version) : parse v.text = .ok v := by
  have solid : ∀ c ∈ v.text.toList, isBlank c = false := by
    intro c hc
    have known := isVersionCharacter_of_mem hc
    exact isBlank_of_isVersionCharacter known
  rw [parse_eq_ok_iff, Text.trimmed, trim_eq_self_of_solid solid, String.ofList_toList]

/-- The canonical form of a version spells its parts. -/
theorem exists_parts (v : Version) : ∃ parts, Parts.read? v.text.toList = some parts ∧ v.canonical.toList = parts.print := by
  obtain ⟨parts, read⟩ := Parts.exists_read?_of_matches (Pattern.accepts_iff.mp v.accepted)
  refine ⟨parts, read, ?_⟩
  unfold canonical
  rw [read]
  exact String.toList_ofList

theorem endsInDigit_canonical (v : Version) : Parts.EndsInDigit v.canonical.toList := by
  obtain ⟨parts, -, spelled⟩ := v.exists_parts
  rw [spelled]
  exact parts.endsInDigit_print

theorem exists_canonical_eq_cons (v : Version) : ∃ d rest, v.canonical.toList = d :: rest ∧ d.isDigit = true := by
  obtain ⟨parts, -, spelled⟩ := v.exists_parts
  rw [spelled]
  exact parts.exists_print_eq_cons

theorem isCanonical_of_mem_canonical {v : Version} {c : Char} (h : c ∈ v.canonical.toList) : Parts.isCanonical c = true := by
  obtain ⟨parts, -, spelled⟩ := v.exists_parts
  rw [spelled] at h
  exact Parts.isCanonical_of_mem_print h

theorem canonical_ne_nil (v : Version) : v.canonical.toList ≠ [] := by
  obtain ⟨before, d, -, spelled⟩ := v.endsInDigit_canonical
  simp [spelled]

/-- A canonical version is in lower case. -/
theorem lowerAscii_canonical (v : Version) : lowerAscii v.canonical.toList = v.canonical.toList := by
  refine (List.map_congr_left fun c hc => ?_).trans (List.map_id _)
  have known := isCanonical_of_mem_canonical hc
  simp only [Parts.isCanonical, Bool.or_eq_true, isDigit_iff] at known
  rcases known with digit | listed
  · exact toLower_eq_self (by omega)
  · have letters : ['.', '!', 'a', 'b', 'r', 'c', 'p', 'o', 's', 't', 'd', 'e', 'v'].all (fun d => d.toLower == d) = true := by
      decide
    exact beq_iff_eq.mp (List.all_eq_true.mp letters c (List.contains_iff_mem.mp listed))

end Version

end ReleaseGate
