import Mathlib.Algebra.Order.BigOperators.Group.Finset
import ReleaseGate.Proofs.Artifact.ChecksumFile
import ReleaseGate.Proofs.Files.Directory
import ReleaseGate.Proofs.Text.Lines

/-!
# Checksum files that read back

The writer of a checksum file escapes nothing, and the reader trims what it finds and drops stars before a name. So a name comes
back as its `core`, what is left of it without white space around it and without stars before that; and a file reads back as it was
written just when every name is one line and its own core (`readsBack_iff`). Names that do not come back cannot stand in for one
another: a core is never longer than the name, so names that are all among the cores of these names are all their own.
-/

namespace ReleaseGate.Checksums

open Text

/-- Whether a checksum file that is written for some artifacts reads back as it was written: no line of it is malformed, and its
entries are the names of the artifacts with their digests. -/
def ReadsBack (artifacts : List Artifact) : Prop :=
  (parse (print artifacts)).malformed = [] ∧
    ∀ name digest, (name, digest) ∈ (parse (print artifacts)).entries ↔ ∃ a ∈ artifacts, a.fileName = name ∧ a.sha256 = digest

/-- Whether a name can stand on a line of a checksum file as it is. -/
structure IsPlainName (name : String) : Prop where
  inhabited : name ≠ ""
  oneLine : IsOneLine name
  trimmed : Text.trimmed name = name
  unmarked : name.toList.head? ≠ some '*'

/-! ## Files of plain names -/

theorem IsPlainName.isRecordable {a : Artifact} (plain : IsPlainName a.fileName) (hex : IsHex a.sha256) : IsRecordable a := by
  refine isRecordable_of_isHex hex (by simpa using plain.inhabited) plain.oneLine ?_ plain.unmarked
  rw [← toList_trimmed, plain.trimmed]

/-- What is recorded for artifacts of distinct names is each of them. -/
theorem mem_entries_iff {text : String} {artifacts : List Artifact} (distinct : (artifacts.map (·.fileName)).Nodup)
    (recorded : records text = artifacts.map fun a => (a.fileName, a.sha256)) (name digest : String) :
    (name, digest) ∈ (parse text).entries ↔ ∃ a ∈ artifacts, a.fileName = name ∧ a.sha256 = digest := by
  have sorted : (parse text).entries.Pairwise fun a b => a.1 < b.1 := parse_isSorted text
  have entriesDistinct : ((parse text).entries.map (·.1)).Nodup := List.pairwise_map.mpr <| sorted.imp fun before => by
    intro same
    rw [same] at before
    exact String.lt_irrefl _ before
  have recordsDistinct : ((records text).reverse.map (·.1)).Nodup := by
    rw [List.map_reverse, recorded, List.map_map]
    exact (List.reverse_perm _).nodup_iff.mpr distinct
  have looked : (parse text).entries.lookup name = (records text).reverse.lookup name := digest?_parse text name
  calc (name, digest) ∈ (parse text).entries
      ↔ (parse text).entries.lookup name = some digest := mem_iff_lookup entriesDistinct
    _ ↔ (name, digest) ∈ (records text).reverse := by rw [looked]; exact (mem_iff_lookup recordsDistinct).symm
    _ ↔ ∃ a ∈ artifacts, a.fileName = name ∧ a.sha256 = digest := by simp [recorded]

theorem readsBack_of_isPlainName {artifacts : List Artifact} (distinct : (artifacts.map (·.fileName)).Nodup)
    (hex : ∀ a ∈ artifacts, IsHex a.sha256) (plain : ∀ a ∈ artifacts, IsPlainName a.fileName) : ReadsBack artifacts := by
  have recordable : ∀ a ∈ artifacts, IsRecordable a := fun a ha => (plain a ha).isRecordable (hex a ha)
  exact ⟨malformed_parse_print recordable, mem_entries_iff distinct (records_print recordable)⟩

/-! ## What comes back of a name -/

/-- A name without white space around it, and without stars before that. -/
def core (name : String) : String := String.ofList ((trim name.toList).dropWhile (· == '*'))

/-- What a line records is one line itself, and no star stands before it. -/
theorem Records.oneLine_unmarked {line : List Char} {name digest : String} (h : Records line name digest) (oneLine : '\n' ∉ line) :
    IsOneLine name ∧ name.toList.head? ≠ some '*' := by
  obtain ⟨written, blank, marked, whole, -, -, -, spelled, -⟩ := h
  constructor
  · intro newline
    have inMarked : '\n' ∈ marked := (isInfix_trim marked).subset ((List.dropWhile_sublist _).subset (spelled ▸ newline))
    refine oneLine ((isInfix_trim line).subset ?_)
    rw [whole]
    exact List.mem_append_right written (List.mem_cons_of_mem blank inMarked)
  · rw [spelled]
    intro star
    have first := List.head?_dropWhile_not (· == '*') (trim marked)
    rw [star] at first
    cases first

/-- The line for an artifact records the core of its name, unless the name is blank. -/
theorem recorded?_row {a : Artifact} (hex : IsHex a.sha256) :
    recorded? (row a) = if trim a.fileName.toList = [] then none else some (core a.fileName, a.sha256) := by
  obtain ⟨blank, isBlank_blank, whole⟩ := exists_append_trimEnd a.fileName.toList
  have trimmed : trim (row a) = trim (a.sha256.toList ++ ' ' :: ' ' :: trimEnd a.fileName.toList) := by
    have spelled : row a = (a.sha256.toList ++ ' ' :: ' ' :: trimEnd a.fileName.toList) ++ blank := by
      rw [List.append_assoc, List.cons_append, List.cons_append, whole]
      rfl
    rw [spelled, trim_append_right isBlank_blank]
  have left : trim (trimEnd a.fileName.toList) = trim a.fileName.toList := trim_trimEnd a.fileName.toList
  have sameDigest : String.ofList (lowerAscii a.sha256.toList) = a.sha256 := by rw [hex.lower, String.ofList_toList]
  unfold recorded?
  rw [trimmed]
  rcases List.eq_nil_or_concat (trimEnd a.fileName.toList) with nothing | ⟨front, c, last⟩
  · -- only the digest is left of the line, and nothing on it separates
    have noName : trim a.fileName.toList = [] := by rw [← left, nothing, trim_nil]
    have twoBlanks : ∀ c ∈ [' ', ' '], isBlank c = true := List.all_eq_true.mp (by decide)
    rw [nothing, trim_append_right twoBlanks, trim_eq_self_of_solid hex.solid, if_pos noName]
    unfold entry?
    rw [cutAtFirst_eq_none hex.solid]
  · rw [List.concat_eq_append] at last
    have solid : isBlank c = false := isBlank_getLast?_trimEnd a.fileName.toList c (by simp [last])
    have filled : trim a.fileName.toList ≠ [] := by
      rw [← left, last]
      exact trim_ne_nil (List.mem_append_right front List.mem_cons_self) solid
    have ends : trim (a.sha256.toList ++ ' ' :: ' ' :: trimEnd a.fileName.toList) =
        a.sha256.toList ++ ' ' :: ' ' :: trimEnd a.fileName.toList := by
      obtain ⟨d, ds, digest⟩ := List.exists_cons_of_ne_nil (by simpa using hex.inhabited : a.sha256.toList ≠ [])
      refine (trim_eq_self_iff _).mpr ⟨fun first h => ?_, fun final h => ?_⟩
      · obtain rfl : d = first := by simpa [digest] using h
        exact hex.solid d (by simp [digest])
      · have whole : a.sha256.toList ++ ' ' :: ' ' :: (front ++ [c]) = (a.sha256.toList ++ ' ' :: ' ' :: front) ++ [c] := by simp
        rw [last, whole, List.getLast?_concat] at h
        exact Option.some.inj h ▸ solid
    have named : trim (' ' :: trimEnd a.fileName.toList) = trim a.fileName.toList := (trim_cons_of_blank rfl _).trans left
    rw [ends, if_neg filled]
    unfold entry?
    rw [cutAtFirst_append hex.solid (rfl : isBlank ' ' = true)]
    simp only [named]
    rw [if_neg (by simpa using filled), sameDigest]
    rfl

/-- A name is plain when it is one line, and its core is as long as the name. -/
theorem isPlainName_of_core {name : String} (oneLine : IsOneLine name) (unmarked : name.toList.head? ≠ some '*')
    (filled : trim name.toList ≠ []) (same : (core name).toList.length = name.toList.length) : IsPlainName name := by
  have shorter : (core name).toList.length ≤ (trim name.toList).length := by
    unfold core
    rw [String.toList_ofList]
    exact (List.dropWhile_suffix _).length_le
  have trimmed : trim name.toList = name.toList := by
    refine (isInfix_trim name.toList).eq_of_length (Nat.le_antisymm (isInfix_trim name.toList).length_le ?_)
    rw [← same]
    exact shorter
  refine ⟨?_, oneLine, ?_, unmarked⟩
  · rintro rfl
    exact filled rfl
  · unfold Text.trimmed
    rw [trimmed, String.ofList_toList]

theorem length_core_le (name : String) : (core name).toList.length ≤ name.toList.length := by
  unfold core
  rw [String.toList_ofList]
  exact ((List.dropWhile_suffix _).length_le).trans (isInfix_trim name.toList).length_le

/-! ## Files that read back -/

/-- Where a map makes nothing larger, and some elements are all among their own images, it keeps the size of each of them. -/
theorem size_eq_of_subset_image {α : Type} [DecidableEq α] {elements : Finset α} {f : α → α} (size : α → Nat)
    (shrinks : ∀ a, size (f a) ≤ size a) (covered : elements ⊆ elements.image f) : ∀ a ∈ elements, size (f a) = size a := by
  have permuted : elements = elements.image f := Finset.eq_of_subset_of_card_le covered Finset.card_image_le
  have injective : Set.InjOn f elements := Finset.card_image_iff.mp (congrArg Finset.card permuted).symm
  have total : ∑ a ∈ elements, size (f a) = ∑ a ∈ elements, size a := by
    rw [← Finset.sum_image (g := f) injective, ← permuted]
  exact (Finset.sum_eq_sum_iff_of_le fun a _ => shrinks a).mp total

section

variable {artifacts : List Artifact}

/-- A file with an entry for each artifact was read from names of one line, without a star before them. -/
theorem oneLine_unmarked_of_readsBack (readsBack : ReadsBack artifacts) {a : Artifact} (ha : a ∈ artifacts) :
    (∃ digest, (a.fileName, digest) ∈ records (print artifacts)) ∧ IsOneLine a.fileName ∧ a.fileName.toList.head? ≠ some '*' := by
  have entry : (a.fileName, a.sha256) ∈ (parse (print artifacts)).entries := (readsBack.2 _ _).mpr ⟨a, ha, rfl, rfl⟩
  obtain ⟨digest, recorded⟩ := mem_names_parse_iff.mp (List.mem_map_of_mem entry)
  obtain ⟨line, there, read⟩ := List.mem_filterMap.mp recorded
  have oneLine : '\n' ∉ line := fun newline => (mem_of_mem_lines there newline).2 rfl
  exact ⟨⟨digest, recorded⟩, ((recorded?_eq_some_iff line _ _).mp read).oneLine_unmarked oneLine⟩

/-- A file that reads back records the core of each name, and no name is blank. -/
theorem records_of_readsBack (readsBack : ReadsBack artifacts) (hex : ∀ a ∈ artifacts, IsHex a.sha256) :
    records (print artifacts) = (artifacts.map fun a => (core a.fileName, a.sha256)) ∧
      ∀ a ∈ artifacts, trim a.fileName.toList ≠ [] := by
  have lines_eq : lines (print artifacts).toList = artifacts.map fun a => dropCarriageReturn (row a) :=
    lines_print_of_oneLine fun a ha => newline_not_mem_row (hex a ha).solid (oneLine_unmarked_of_readsBack readsBack ha).2.1
  have recordedAt : ∀ a ∈ artifacts, recorded? (dropCarriageReturn (row a)) =
      if trim a.fileName.toList = [] then none else some (core a.fileName, a.sha256) := by
    intro a ha
    rw [← recorded?_row (hex a ha)]
    unfold recorded?
    rw [trim_dropCarriageReturn]
  have filled : ∀ a ∈ artifacts, trim a.fileName.toList ≠ [] := by
    intro a ha blank
    obtain ⟨d, ds, digest⟩ := List.exists_cons_of_ne_nil (by simpa using (hex a ha).inhabited : a.sha256.toList ≠ [])
    have inDigest : d ∈ a.sha256.toList := by simp [digest]
    have inLines : dropCarriageReturn (row a) ∈ lines (print artifacts).toList := by
      rw [lines_eq]
      exact List.mem_map_of_mem ha
    refine (parse_eq (print artifacts)).2.mp readsBack.1 _ inLines ⟨?_, ?_⟩
    · rw [trim_dropCarriageReturn]
      exact trim_ne_nil (List.mem_append_left _ inDigest) ((hex a ha).solid d inDigest)
    · rw [recordedAt a ha, if_pos blank]
  refine ⟨?_, filled⟩
  unfold records
  rw [lines_eq, List.filterMap_map, ← List.filterMap_eq_map]
  refine List.filterMap_congr fun a ha => ?_
  show recorded? (dropCarriageReturn (row a)) = some (core a.fileName, a.sha256)
  rw [recordedAt a ha, if_neg (filled a ha)]

end

/-- A checksum file for artifacts of distinct names reads back as it was written just when every name is plain. -/
theorem readsBack_iff {artifacts : List Artifact} (distinct : (artifacts.map (·.fileName)).Nodup)
    (hex : ∀ a ∈ artifacts, IsHex a.sha256) : ReadsBack artifacts ↔ ∀ a ∈ artifacts, IsPlainName a.fileName := by
  refine ⟨fun readsBack a ha => ?_, readsBack_of_isPlainName distinct hex⟩
  obtain ⟨recorded, filled⟩ := records_of_readsBack readsBack hex
  let names := (artifacts.map (·.fileName)).toFinset
  have inNames : ∀ b ∈ artifacts, b.fileName ∈ names := fun b hb => List.mem_toFinset.mpr (List.mem_map_of_mem hb)
  have covered : names ⊆ names.image core := by
    intro name hn
    obtain ⟨b, hb, rfl⟩ := List.mem_map.mp (List.mem_toFinset.mp hn)
    obtain ⟨⟨digest, inside⟩, -⟩ := oneLine_unmarked_of_readsBack readsBack hb
    rw [recorded] at inside
    obtain ⟨c, hc, same⟩ := List.mem_map.mp inside
    exact Finset.mem_image.mpr ⟨c.fileName, inNames c hc, congrArg Prod.fst same⟩
  have sameLength : (core a.fileName).toList.length = a.fileName.toList.length :=
    size_eq_of_subset_image (fun name => name.toList.length) length_core_le covered a.fileName (inNames a ha)
  obtain ⟨-, oneLine, unmarked⟩ := oneLine_unmarked_of_readsBack readsBack ha
  exact isPlainName_of_core oneLine unmarked (filled a ha) sameLength

/-- An artifact of a name and a digest. -/
def labelled (name digest : String) : Artifact := { fileName := name, path := ⟨name⟩, size := 1, sha256 := digest }

/-- White space and stars inside names do no harm. Before a name they do, although the other name is there to be read for it. -/
theorem readsBack_iff_starred :
    ReadsBack [labelled "a b.whl" "0f", labelled "c*.zip" "a0"] ∧ ¬ReadsBack [labelled "b" "0f", labelled " *b" "a0"] := by
  have hex : IsHex "0f" ∧ IsHex "a0" :=
    ⟨⟨by decide, List.forall_mem_cons.mpr ⟨⟨0, rfl⟩, List.forall_mem_singleton.mpr ⟨15, rfl⟩⟩⟩,
      ⟨by decide, List.forall_mem_cons.mpr ⟨⟨10, rfl⟩, List.forall_mem_singleton.mpr ⟨0, rfl⟩⟩⟩⟩
  constructor
  · refine (readsBack_iff (by decide) ?_).mpr ?_
    · exact List.forall_mem_cons.mpr ⟨hex.1, List.forall_mem_singleton.mpr hex.2⟩
    · refine List.forall_mem_cons.mpr ⟨⟨?_, ?_, ?_, ?_⟩, List.forall_mem_singleton.mpr ⟨?_, ?_, ?_, ?_⟩⟩ <;> decide
  · intro readsBack
    have plain := (readsBack_iff (by decide) ?_).mp readsBack (labelled " *b" "a0") (by simp)
    · exact absurd plain.trimmed (by decide)
    · exact List.forall_mem_cons.mpr ⟨hex.1, List.forall_mem_singleton.mpr hex.2⟩

end ReleaseGate.Checksums
