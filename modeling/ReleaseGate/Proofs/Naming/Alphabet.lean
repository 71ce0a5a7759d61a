import ReleaseGate.Proofs.Run.Course
import ReleaseGate.Proofs.Verification.Families
import ReleaseGate.Proofs.Version.Prerelease

/-!
# The alphabet of versions and of names

Versions and the names of projects are meant to be spelled in ASCII, with letters in either case. They are compared by simple case
folding, under which two characters outside ASCII are letters as well: the long s and the kelvin sign. So a version may have a long s
in the label `post`, and nowhere else, and the name of a project may have either of the two wherever it may have a letter
(`alphabet_of_accepted`). A version or a name without them is in ASCII.
-/

namespace ReleaseGate

/-! ## Versions -/

namespace Version

open Parts Text

/-- Whether a character is one of those of which versions are meant to be spelled. -/
def isPlainCharacter (c : Char) : Bool := c.isAlphanum || ['-', '_', '.', '!'].contains c

/-- A text of such characters. -/
def IsPlain (s : List Char) : Prop := ∀ c ∈ s, isPlainCharacter c = true

/-- A text of such characters, but for the label `post` in it, which is spelled with a long s. -/
def HasLongPost (s : List Char) : Prop :=
  ∃ before label after, s = before ++ (label ++ after) ∧ lowerAscii label = "poſt".toList ∧ IsPlain before ∧ IsPlain after

theorem isPlain_nil : IsPlain [] := List.forall_mem_nil _

theorem isPlain_append_iff {a b : List Char} : IsPlain (a ++ b) ↔ IsPlain a ∧ IsPlain b := List.forall_mem_append

theorem HasLongPost.mem {s : List Char} (h : HasLongPost s) : 'ſ' ∈ s := by
  obtain ⟨before, label, after, rfl, long, -, -⟩ := h
  have there : 'ſ' ∈ lowerAscii label := by
    rw [long]
    decide
  obtain ⟨c, inside, same⟩ := List.mem_map.mp there
  obtain rfl : c = 'ſ' := (toLower_eq_iff (by decide)).mp same
  exact List.mem_append_right before (List.mem_append_left after inside)

theorem not_mem_of_isPlain {s : List Char} (h : IsPlain s) : 'ſ' ∉ s := fun there => absurd (h _ there) (by decide)

theorem isPlain_of_isDigits {s : List Char} (h : IsDigits s) : IsPlain s := by
  intro c hc
  simp [isPlainCharacter, Char.isAlphanum, h c hc]

theorem isPlain_of_isGap {s : List Char} (h : IsGap s) : IsPlain s := by
  rcases h with rfl | ⟨c, separator, rfl⟩
  · exact isPlain_nil
  · simp only [isSeparator, Bool.or_eq_true, beq_iff_eq] at separator
    rcases separator with (rfl | rfl) | rfl <;> exact List.forall_mem_singleton.mpr rfl

/-- What is a word in lower case is spelled in ASCII. -/
theorem isPlain_of_lowerAscii {word name : List Char} (lower : IsLowerCase word) (h : lowerAscii name = word) : IsPlain name := by
  intro c hc
  have letter : c.toLower.isLower = true := lower _ (h ▸ List.mem_map_of_mem hc)
  have alpha : c.isAlpha = true := by
    rw [isLower_iff, toNat_toLower] at letter
    rw [isAlpha_iff]
    split at letter <;> omega
  simp [isPlainCharacter, Char.isAlphanum, alpha]

/-- The label `post` is spelled in ASCII or with a long s. -/
theorem isPlain_or_hasLongPost_of_spells {name : List Char} (h : Spells "post".toList name) : IsPlain name ∨ HasLongPost name := by
  have cut : name.map folded = ['p', 'o'] ++ 's' :: ['t'] := h
  obtain ⟨front, rest, rfl, hfront, hrest⟩ := List.map_eq_append_iff.mp cut
  obtain ⟨c, back, rfl, hc, hback⟩ := List.map_eq_cons_iff.mp hrest
  have lowered : lowerAscii (front ++ c :: back) = ['p', 'o'] ++ c.toLower :: ['t'] := by
    rw [← lowerAscii_of_spells hfront (by decide) (by decide), ← lowerAscii_of_spells hback (by decide) (by decide)]
    simp [lowerAscii]
  by_cases long : c = 'ſ'
  · refine .inr ⟨[], front ++ c :: back, [], by simp, ?_, isPlain_nil, isPlain_nil⟩
    rw [lowered, long]
    decide
  · left
    have small : c.toLower = 's' := by
      unfold folded at hc
      grind
    have lower : IsLowerCase "post".toList := by decide
    exact isPlain_of_lowerAscii lower (by rw [lowered, small]; rfl)

/-- Of three texts, of which only the second may have a long s. -/
theorem isPlain_or_hasLongPost_append {a b c : List Char} (ha : IsPlain a) (hb : IsPlain b ∨ HasLongPost b) (hc : IsPlain c) :
    IsPlain (a ++ (b ++ c)) ∨ HasLongPost (a ++ (b ++ c)) := by
  rcases hb with hb | ⟨before, label, after, rfl, long, hbefore, hafter⟩
  · exact .inl (isPlain_append_iff.mpr ⟨ha, isPlain_append_iff.mpr ⟨hb, hc⟩⟩)
  · exact .inr ⟨a ++ before, label, after ++ c, by simp, long, isPlain_append_iff.mpr ⟨ha, hbefore⟩,
      isPlain_append_iff.mpr ⟨hafter, hc⟩⟩

/-- A segment is in ASCII around its label. -/
theorem Labelled.isPlain_or_hasLongPost {α : Type} {table : List (String × α)} {l : Labelled table}
    (name : IsPlain l.name ∨ HasLongPost l.name) : IsPlain l.text ∨ HasLongPost l.text :=
  isPlain_or_hasLongPost_append (isPlain_of_isGap l.gapBefore) name
    (isPlain_append_iff.mpr ⟨isPlain_of_isGap l.gapAfter, isPlain_of_isDigits l.isDigits⟩)

/-- A label without the letters s and k is spelled in ASCII, and so is the segment. -/
theorem Labelled.isPlain_text {α : Type} {table : List (String × α)}
    (plain : ∀ e ∈ table, IsLowerCase e.1.toList ∧ 's' ∉ e.1.toList ∧ 'k' ∉ e.1.toList) (piece : Option (Labelled table)) :
    IsPlain (written Labelled.text piece) := by
  cases piece with
  | none => exact isPlain_nil
  | some l =>
    obtain ⟨lower, s, k⟩ := plain _ l.known
    have name : IsPlain l.name := isPlain_of_lowerAscii lower (lowerAscii_of_spells l.spelled s k)
    have tail : IsPlain (l.after ++ l.digits) := isPlain_append_iff.mpr ⟨isPlain_of_isGap l.gapAfter, isPlain_of_isDigits l.isDigits⟩
    exact isPlain_append_iff.mpr ⟨isPlain_of_isGap l.gapBefore, isPlain_append_iff.mpr ⟨name, tail⟩⟩

/-- Of the labels of post-releases only `post` has an s. -/
theorem PostRelease.isPlain_or_hasLongPost (post : Option PostRelease) :
    IsPlain (written PostRelease.text post) ∨ HasLongPost (written PostRelease.text post) := by
  have words : ∀ e ∈ postLabels, e.1 = "post" ∨ IsLowerCase e.1.toList ∧ 's' ∉ e.1.toList ∧ 'k' ∉ e.1.toList := by decide
  match post with
  | none => exact .inl isPlain_nil
  | some (.bare n) => exact .inl (List.forall_mem_cons.mpr ⟨rfl, isPlain_of_isDigits n.isNumber.2⟩)
  | some (.labelled l) =>
    apply Labelled.isPlain_or_hasLongPost (l := l)
    rcases words _ l.known with post | ⟨lower, s, k⟩
    · exact isPlain_or_hasLongPost_of_spells (post ▸ l.spelled)
    · exact .inl (isPlain_of_lowerAscii lower (lowerAscii_of_spells l.spelled s k))

/-- A version is in ASCII, but for a long s in the label `post`. -/
theorem isPlain_or_hasLongPost (v : Version) : IsPlain v.text.toList ∨ HasLongPost v.text.toList := by
  obtain ⟨t, whole⟩ := (isSpelling_iff _).mp ((matches_publicVersion_iff _).mp (Pattern.accepts_iff.mp v.accepted))
  have mark : IsPlain t.mark := by
    rcases t.isMark with none | spelled
    · rw [none]
      exact isPlain_nil
    · have lower : IsLowerCase ['v'] := by decide
      exact isPlain_of_lowerAscii lower (lowerAscii_of_spells spelled (by decide) (by decide))
  have epoch : IsPlain (written (fun n : Numeral => n.digits ++ ['!']) t.epoch) := by
    cases t.epoch with
    | none => exact isPlain_nil
    | some n => exact isPlain_append_iff.mpr ⟨isPlain_of_isDigits n.isNumber.2, List.forall_mem_singleton.mpr rfl⟩
  have release : IsPlain t.releaseText := by
    refine isPlain_append_iff.mpr ⟨isPlain_of_isDigits t.major.isNumber.2, fun c hc => ?_⟩
    obtain ⟨digits, minor, dotted⟩ := List.mem_flatMap.mp hc
    obtain ⟨n, -, rfl⟩ := List.mem_map.mp minor
    rcases List.mem_cons.mp dotted with rfl | digit
    · rfl
    · exact isPlain_of_isDigits n.isNumber.2 c digit
  have pre : IsPlain (written Labelled.text t.pre) := Labelled.isPlain_text (by decide) t.pre
  have dev : IsPlain (written Labelled.text t.dev) := Labelled.isPlain_text (by decide) t.dev
  have pieces : v.text.toList = (t.mark ++ (written (fun n => n.digits ++ ['!']) t.epoch ++ (t.releaseText ++
      written Labelled.text t.pre))) ++ (written PostRelease.text t.post ++ written Labelled.text t.dev) := by
    rw [← whole]
    simp [Spelling.text, Spelling.preText, Spelling.postText]
  rw [pieces]
  refine isPlain_or_hasLongPost_append ?_ (PostRelease.isPlain_or_hasLongPost t.post) dev
  exact isPlain_append_iff.mpr ⟨mark, isPlain_append_iff.mpr ⟨epoch, isPlain_append_iff.mpr ⟨release, pre⟩⟩⟩

end Version

/-! ## Names -/

namespace Naming

open Text

/-- The name of a project, with the characters that may stand at its ends: all but the separators, which stand only between them. -/
structure IsProjectName (isEnd : Char → Bool) (name : List Char) : Prop where
  within : ∀ c ∈ name, isEnd c = true ∨ isWordSeparator c = true
  first : ∃ c ∈ name.head?, isEnd c = true
  last : ∃ c ∈ name.getLast?, isEnd c = true

theorem matches_projectName_iff (name : List Char) : projectName.Matches name ↔ IsProjectName isNameEnd name := by
  have either : ∀ c, isNameCharacter c = true ↔ isNameEnd c = true ∨ isWordSeparator c = true := by simp [isNameCharacter]
  simp only [projectName, Pattern.matches_alt_iff, Pattern.matches_sequence_cons_iff, Pattern.sequence_singleton,
    Pattern.matches_one_iff, Pattern.matches_many_one_iff, either]
  constructor
  · rintro (⟨c, hc, rfl⟩ | ⟨_, _, ⟨c, hc, rfl⟩, ⟨middle, _, inside, ⟨d, hd, rfl⟩, rfl⟩, rfl⟩)
    · exact ⟨by simp [hc], by simp [hc], by simp [hc]⟩
    · refine ⟨?_, by simp [hc], d, List.getLast?_eq_some_iff.mpr ⟨c :: middle, rfl⟩, hd⟩
      exact List.forall_mem_append.mpr ⟨by simp [hc], List.forall_mem_append.mpr ⟨inside, by simp [hd]⟩⟩
  · rintro ⟨within, ⟨c, first, hc⟩, d, last, hd⟩
    obtain ⟨front, rfl⟩ := List.getLast?_eq_some_iff.mp last
    cases front with
    | nil => exact .inl ⟨d, hd, rfl⟩
    | cons e middle =>
      obtain rfl : e = c := Option.some.inj first
      exact .inr ⟨[e], _, ⟨e, hc, rfl⟩, ⟨middle, [d], fun x hx => within x (by simp [hx]), ⟨d, hd, rfl⟩, rfl⟩, rfl⟩

/-- The letters and digits that may end a name are those of ASCII, the long s and the kelvin sign. -/
theorem isNameEnd_iff (c : Char) : isNameEnd c = true ↔ c.isAlphanum = true ∨ c = 'ſ' ∨ c = '\u212a' := by
  have kelvin : c.toNat = 0x212a ↔ c = '\u212a' := Char.toNat_inj (d := '\u212a')
  simp only [isNameEnd, foldsToLetter, Char.isAlphanum, Bool.or_eq_true, beq_iff_eq, kelvin]
  grind

/-- A name is in ASCII just when neither of the two characters is in it. -/
theorem isProjectName_isAlphanum_iff {name : List Char} (h : IsProjectName isNameEnd name) :
    IsProjectName Char.isAlphanum name ↔ 'ſ' ∉ name ∧ '\u212a' ∉ name := by
  constructor
  · intro plain
    exact ⟨fun there => absurd (plain.within _ there) (by decide), fun there => absurd (plain.within _ there) (by decide)⟩
  · rintro ⟨long, kelvin⟩
    have plain : ∀ c ∈ name, isNameEnd c = true → c.isAlphanum = true := by
      intro c hc ends
      rcases (isNameEnd_iff c).mp ends with letter | rfl | rfl
      · exact letter
      · exact absurd hc long
      · exact absurd hc kelvin
    obtain ⟨within, ⟨c, first, hc⟩, d, last, hd⟩ := h
    refine ⟨fun e he => (within e he).imp_left (plain e he), ⟨c, first, plain c (List.mem_of_mem_head? first) hc⟩, d, last, ?_⟩
    exact plain d (List.mem_of_getLast? last) hd

end Naming

/-! ## What is accepted -/

namespace Verifier

open Naming Version Text

/-- Nothing is found on the name of a package just when it is the name of a project. -/
theorem no_nameIssue_iff {s : ArtifactSet} {d : Descriptor} (described : s.descriptor = some d) :
    (∀ i ∈ descriptorIssues s, i.subject ≠ "name") ↔ IsProjectName isNameEnd d.name.toList := by
  rw [← matches_projectName_iff, ← packageNameIssues_eq_nil_iff]
  have name : ∀ i ∈ packageNameIssues d, i.subject = "name" := by
    unfold packageNameIssues
    grind
  have others : ∀ i ∈ summaryIssues d ++ longDescriptionIssues d ++ contentTypeIssues d, i.subject ≠ "name" := by
    unfold summaryIssues longDescriptionIssues contentTypeIssues
    grind
  have pieces : descriptorIssues s = packageNameIssues d ++ (summaryIssues d ++ longDescriptionIssues d ++ contentTypeIssues d) := by
    simp [descriptorIssues, described]
  rw [pieces, List.forall_mem_append, and_iff_left others]
  constructor
  · intro none_there
    exact List.eq_nil_iff_forall_not_mem.mpr fun i hi => none_there i hi (name i hi)
  · intro nothing
    rw [nothing]
    exact List.forall_mem_nil _

/-- A version is stored as it is written, without the white space around it, and is in ASCII but for a long s in the label `post`; and
the package names on which nothing is found are names in ASCII, but for long s's and kelvin signs in the place of letters. -/
theorem alphabet_of_accepted {raw : String} {v : Version} (parsed : parse raw = .ok v) {s : ArtifactSet} {d : Descriptor}
    (described : s.descriptor = some d) :
    (v.text = trimmed raw ∧ (IsPlain v.text.toList ↔ 'ſ' ∉ v.text.toList) ∧
        ('ſ' ∈ v.text.toList → HasLongPost v.text.toList)) ∧
      ((∀ i ∈ descriptorIssues s, i.subject ≠ "name") ↔ IsProjectName isNameEnd d.name.toList) ∧
      (IsProjectName isNameEnd d.name.toList →
        (IsProjectName Char.isAlphanum d.name.toList ↔ 'ſ' ∉ d.name.toList ∧ '\u212a' ∉ d.name.toList)) := by
  have stored : v.text = trimmed raw := ((parse_eq_ok_iff raw v).mp parsed).symm
  refine ⟨⟨stored, ⟨not_mem_of_isPlain, fun absent => ?_⟩, fun there => ?_⟩, no_nameIssue_iff described,
    isProjectName_isAlphanum_iff⟩
  · exact v.isPlain_or_hasLongPost.resolve_right fun long => absent long.mem
  · exact v.isPlain_or_hasLongPost.resolve_left fun plain => not_mem_of_isPlain plain there

end Verifier

namespace Widget

open Verifier

/-- A version with a long s, and the name of the widget. -/
theorem alphabet_of_accepted_long :
    ∃ v : Version, Version.parse " 1.0.poſt1" = .ok v ∧ set.descriptor = some descriptor ∧ v.text = "1.0.poſt1" ∧
      Version.HasLongPost v.text.toList ∧ Naming.IsProjectName Char.isAlphanum descriptor.name.toList := by
  let v : Version := ⟨"1.0.poſt1", by decide +kernel⟩
  have parsed : Version.parse " 1.0.poſt1" = .ok v := (Version.parse_eq_ok_iff _ v).mpr (by decide +kernel)
  have described : set.descriptor = some descriptor := rfl
  obtain ⟨⟨-, -, long⟩, named, ascii⟩ := alphabet_of_accepted parsed described
  have name := named.mp (by decide +kernel)
  exact ⟨v, parsed, described, rfl, long (by decide), (ascii name).mpr (by decide)⟩

/-- A version with a long s is read as the one with an s that it looks like, and nothing is found on a name with a kelvin sign. -/
theorem lookalikes_accepted :
    (∃ v, Version.parse "1.0.poſt1" = .ok v ∧ v.text = "1.0.poſt1" ∧ v.canonical = "1.0.post1" ∧
        'ſ' ∈ v.text.toList ∧ ¬Version.IsPlain v.text.toList) ∧
      (∀ i ∈ descriptorIssues { set with descriptor := some { descriptor with name := "\u212aite" } }, i.subject ≠ "name") ∧
      ¬Naming.IsProjectName Char.isAlphanum "\u212aite".toList := by
  let v : Version := ⟨"1.0.poſt1", by decide +kernel⟩
  have long : 'ſ' ∈ v.text.toList := by decide
  have kelvin : '\u212a' ∈ "\u212aite".toList := by decide
  refine ⟨⟨v, Version.parse_text v, rfl, by decide +kernel, long, fun plain => Version.not_mem_of_isPlain plain long⟩, ?_, ?_⟩
  · decide +kernel
  · exact fun plain => absurd (plain.within _ kelvin) (by decide)

end Widget

end ReleaseGate
