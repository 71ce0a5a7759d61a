import Mathlib.Data.List.Infix
import ReleaseGate.Proofs.Build.Stages
import ReleaseGate.Proofs.Run.Course
import ReleaseGate.Proofs.Text.Replacement

/-!
# The placeholders of a build command

An argument of a build command is meant to be filled in where its placeholders stand and nowhere else (`filled`). The builder fills
in the directory first and then the version, in all of what came of it, so a path can be rewritten that holds the placeholder for
the version or the end of one. `placeholders_filled_iff` says which output roots are left alone: with these, and with no others, each
command is filled in as it is meant.
-/

namespace ReleaseGate.Builder

open Text

/-! ## What is meant -/

/-- A text with a directory and a version filled in for their placeholders, each where it stands: what was filled in is not read
again. -/
def filled (directory version : List Char) : List Char → List Char
  | [] => []
  | c :: rest =>
    match _found : afterPrefix? outputPlaceholder.toList (c :: rest) with
    | some after => directory ++ filled directory version after
    | none =>
      match _other : afterPrefix? versionPlaceholder.toList (c :: rest) with
      | some after => version ++ filled directory version after
      | none => c :: filled directory version rest
termination_by s => s.length
decreasing_by
  · have whole := congrArg List.length (eq_append_of_afterPrefix? _found)
    have some : 0 < outputPlaceholder.toList.length := by decide
    rw [List.length_append] at whole
    omega
  · have whole := congrArg List.length (eq_append_of_afterPrefix? _other)
    have some : 0 < versionPlaceholder.toList.length := by decide
    rw [List.length_append] at whole
    omega
  · exact Nat.lt_succ_self _

variable {directory version rest s : List Char} {c : Char}

theorem filled_output : filled directory version (outputPlaceholder.toList ++ rest) = directory ++ filled directory version rest := by
  have found : afterPrefix? outputPlaceholder.toList (outputPlaceholder.toList ++ rest) = some rest := afterPrefix?_append ..
  generalize outputPlaceholder.toList ++ rest = s at found ⊢
  cases s with
  | nil => cases found
  | cons c more =>
    rw [filled]
    split
    next after found' => rw [Option.some.inj (found'.symm.trans found)]
    next missing => cases missing.symm.trans found

/-- No placeholder for the directory begins within one for the version. -/
theorem not_output_of_version {u : List Char} (inhabited : u ≠ []) (ends : u <:+ versionPlaceholder.toList) :
    ¬outputPlaceholder.toList <+: u ++ rest := by
  have apart : ∀ u ∈ versionPlaceholder.toList.tails, u ≠ [] →
      ¬outputPlaceholder.toList <+: u ∧ ¬u <+: outputPlaceholder.toList := by decide
  obtain ⟨noStart, noEnd⟩ := apart u ((List.mem_tails u _).mpr ends) inhabited
  intro front
  rcases List.prefix_or_prefix_of_prefix front (List.prefix_append ..) with inside | begun
  · exact noStart inside
  · exact noEnd begun

theorem filled_version : filled directory version (versionPlaceholder.toList ++ rest) = version ++ filled directory version rest := by
  have found : afterPrefix? versionPlaceholder.toList (versionPlaceholder.toList ++ rest) = some rest := afterPrefix?_append ..
  have noOutput : afterPrefix? outputPlaceholder.toList (versionPlaceholder.toList ++ rest) = none :=
    afterPrefix?_eq_none_iff.mpr (not_output_of_version (by decide) (List.suffix_refl _))
  generalize versionPlaceholder.toList ++ rest = s at found noOutput ⊢
  cases s with
  | nil => cases found
  | cons c more =>
    rw [filled]
    split
    next after output => cases output.symm.trans noOutput
    next =>
      split
      next after found' => rw [Option.some.inj (found'.symm.trans found)]
      next missing => cases missing.symm.trans found

theorem filled_cons (noOutput : ¬outputPlaceholder.toList <+: c :: rest) (noVersion : ¬versionPlaceholder.toList <+: c :: rest) :
    filled directory version (c :: rest) = c :: filled directory version rest := by
  rw [filled]
  split
  next after output => cases output.symm.trans (afterPrefix?_eq_none_iff.mpr noOutput)
  next =>
    split
    next after found => cases found.symm.trans (afterPrefix?_eq_none_iff.mpr noVersion)
    next => rfl

/-- A text in which no placeholder begins stays. -/
theorem filled_append_of_passed
    (passed : ∀ u, u ≠ [] → u <:+ s → ¬outputPlaceholder.toList <+: u ++ rest ∧ ¬versionPlaceholder.toList <+: u ++ rest) :
    filled directory version (s ++ rest) = s ++ filled directory version rest := by
  induction s with
  | nil => rfl
  | cons c s ih =>
    obtain ⟨noOutput, noVersion⟩ := passed (c :: s) (List.cons_ne_nil c s) (List.suffix_refl _)
    have later := ih fun u inhabited ends => passed u inhabited (ends.trans (List.suffix_cons c s))
    rw [List.cons_append] at noOutput noVersion ⊢
    rw [filled_cons noOutput noVersion, later, List.cons_append]

/-! ## One after the other -/

/-- A text with the directory filled in, and then the version in what came of it. -/
def filledTwice (directory version s : List Char) : List Char :=
  replaceEach versionPlaceholder.toList version (replaceEach outputPlaceholder.toList directory s)

/-- Whether the placeholder for the version is neither found in a directory nor put together with the text around it. -/
structure IsLeftAlone (directory : List Char) : Prop where
  notInside : ¬versionPlaceholder.toList <:+: directory
  notWithin : ¬directory <:+: versionPlaceholder.toList
  notEnded : ∀ rest, rest ≠ [] → rest <:+ versionPlaceholder.toList → ¬rest <+: directory
  notBegun : ∀ start, start ≠ [] → start <:+ directory → ¬start <+: versionPlaceholder.toList

/-- The end of a placeholder that stands where the directory was filled in stood there before. -/
theorem prefix_of_prefix_replaceEach (alone : IsLeftAlone directory) {ending : List Char}
    (ends : ending <:+ versionPlaceholder.toList) (front : ending <+: replaceEach outputPlaceholder.toList directory s) :
    ending <+: s := by
  have inhabited : outputPlaceholder.toList ≠ [] := by decide
  induction s using replaceEach_induction inhabited generalizing ending with
  | nil => exact front
  | occurs rest _ =>
    rw [replaceEach_append inhabited] at front
    by_cases none_left : ending = []
    · exact none_left ▸ List.nil_prefix
    rcases List.prefix_or_prefix_of_prefix front (List.prefix_append ..) with before | within
    · exact absurd before (alone.notEnded ending none_left ends)
    · exact absurd (within.isInfix.trans ends.isInfix) alone.notWithin
  | stays c rest absent ih =>
    rw [replaceEach_cons absent] at front
    cases ending with
    | nil => exact List.nil_prefix
    | cons d ending =>
      obtain ⟨rfl, later⟩ := List.cons_prefix_cons.mp front
      exact List.cons_prefix_cons.mpr ⟨rfl, ih ((List.suffix_cons d ending).trans ends) later⟩

/-- Where a directory is left alone, filling in one after the other is filling in at once. -/
theorem filledTwice_eq_filled (alone : IsLeftAlone directory) (s : List Char) :
    filledTwice directory version s = filled directory version s := by
  have output : outputPlaceholder.toList ≠ [] := by decide
  have placeholder : versionPlaceholder.toList ≠ [] := by decide
  unfold filledTwice
  fun_induction filled directory version s with
  | case1 => rfl
  | case2 c rest after found ih =>
    rw [eq_append_of_afterPrefix? found, replaceEach_append output, replaceEach_append_of_passed ?_, ih]
    intro u inhabited ends front
    rcases List.prefix_or_prefix_of_prefix front (List.prefix_append ..) with inside | begun
    · exact alone.notInside (inside.isInfix.trans ends.isInfix)
    · exact alone.notBegun u inhabited ends begun
  | case3 c rest _ after found ih =>
    rw [eq_append_of_afterPrefix? found, replaceEach_append_of_passed fun u => not_output_of_version,
      replaceEach_append placeholder, ih]
  | case4 c rest noOutput noVersion ih =>
    rw [replaceEach_cons (afterPrefix?_eq_none_iff.mp noOutput), replaceEach_cons ?_, ih]
    -- a placeholder for the version here would have stood here before
    intro front
    obtain ⟨d, ending, whole⟩ : ∃ d ending, versionPlaceholder.toList = d :: ending := ⟨_, _, rfl⟩
    rw [whole] at front
    obtain ⟨rfl, later⟩ := List.cons_prefix_cons.mp front
    have before := prefix_of_prefix_replaceEach alone (whole ▸ List.suffix_cons d ending) later
    exact afterPrefix?_eq_none_iff.mp noVersion (whole ▸ List.cons_prefix_cons.mpr ⟨rfl, before⟩)

/-- Where the placeholder for the version comes of its beginning and a directory, filling in one after the other is not filling in
at once: the beginning before the placeholder for the directory shows it. -/
theorem filledTwice_ne_filled {start : List Char} (plain : '\x7b' ∉ version) (begins : start <+: versionPlaceholder.toList)
    (notWhole : start ≠ versionPlaceholder.toList) (inside : versionPlaceholder.toList <:+: start ++ directory) :
    filledTwice directory version (start ++ outputPlaceholder.toList) ≠
      filled directory version (start ++ outputPlaceholder.toList) := by
  have apart : ∀ start ∈ versionPlaceholder.toList.inits, start ≠ versionPlaceholder.toList → ∀ u ∈ start.tails, u ≠ [] →
      ¬outputPlaceholder.toList <+: u ++ outputPlaceholder.toList ∧
        ¬versionPlaceholder.toList <+: u ++ outputPlaceholder.toList := by decide
  have passed : ∀ u, u ≠ [] → u <:+ start → ¬outputPlaceholder.toList <+: u ++ outputPlaceholder.toList ∧
      ¬versionPlaceholder.toList <+: u ++ outputPlaceholder.toList := fun u inhabited ends =>
    apart start ((List.mem_inits start _).mpr begins) notWhole u ((List.mem_tails u start).mpr ends) inhabited
  have alone : replaceEach outputPlaceholder.toList directory outputPlaceholder.toList = directory := by
    have output : replaceEach outputPlaceholder.toList directory (outputPlaceholder.toList ++ []) =
        directory ++ replaceEach outputPlaceholder.toList directory [] := replaceEach_append (by decide)
    simpa [replaceEach_nil] using output
  have once : replaceEach outputPlaceholder.toList directory (start ++ outputPlaceholder.toList) = start ++ directory := by
    rw [replaceEach_append_of_passed fun u inhabited ends => (passed u inhabited ends).1, alone]
  have meant : filled directory version (start ++ outputPlaceholder.toList) = start ++ directory := by
    have output : filled directory version (outputPlaceholder.toList ++ []) = directory ++ filled directory version [] :=
      filled_output
    rw [filled_append_of_passed passed]
    simpa [filled] using output
  rw [filledTwice, once, meant]
  exact replaceEach_ne_self (by decide) plain inside

/-! ## Output roots -/

/-- Whether a path holds no placeholder for the version and does not begin with the end of one. -/
structure IsInert (p : Path) : Prop where
  notInside : ¬versionPlaceholder.toList <:+: p.text.toList
  notEnded : ∀ rest, rest ≠ [] → rest <:+ versionPlaceholder.toList → ¬rest <+: p.text.toList

variable {b : Builder} {v : Version}

/-- What ends in a brace and begins an output directory begins its root, since there is no brace in what follows the root. -/
theorem prefix_root_of_prefix_outputDir {t : List Char} (ends : ['\x7d'] <:+ t) (front : t <+: (b.outputDir v).text.toList) :
    t <+: b.root.text.toList := by
  obtain ⟨gap, -, noBrace, whole⟩ := b.exists_outputDir_text v
  rw [whole] at front
  rcases List.prefix_or_prefix_of_prefix front (List.prefix_append ..) with inside | ⟨more, rfl⟩
  · exact inside
  rcases List.eq_nil_or_concat more with rfl | ⟨init, c, rfl⟩
  · simp
  · obtain ⟨before, same⟩ := ends
    obtain rfl : '\x7d' = c := by simpa using congrArg List.getLast? same
    have later := (List.prefix_append_right_inj _).mp front
    have there : '\x7d' ∈ gap ++ v.text.toList := later.subset (by simp)
    rcases List.mem_append.mp there with inGap | inVersion
    · exact absurd inGap noBrace
    · exact absurd (Version.isVersionCharacter_of_mem inVersion) (by decide)

theorem prefix_outputDir_of_prefix_root {t : List Char} (front : t <+: b.root.text.toList) : t <+: (b.outputDir v).text.toList := by
  obtain ⟨gap, -, -, whole⟩ := b.exists_outputDir_text v
  rw [whole]
  exact front.trans (List.prefix_append ..)

/-- A text that does not end before the version begins has a digit of it, and the version has no brace. -/
theorem isLeftAlone_of_isInert (inert : IsInert b.root) : IsLeftAlone (b.outputDir v).text.toList := by
  obtain ⟨gap, noBrace, -, whole⟩ := b.exists_outputDir_text v
  obtain ⟨d, inside, digit⟩ := v.exists_digit
  have noDigit : d ∉ versionPlaceholder.toList := by
    have letters : ∀ c ∈ versionPlaceholder.toList, c.isDigit = false := by simp [versionPlaceholder]
    intro there
    exact absurd (digit.symm.trans (letters d there)) (by decide)
  have brace : ∀ u ∈ versionPlaceholder.toList.tails, u ≠ [] → ['\x7d'] <:+ u := by decide
  refine ⟨?_, ?_, ?_, ?_⟩
  · rintro ⟨before, after, same⟩
    have front := prefix_root_of_prefix_outputDir (b := b) (v := v) (t := before ++ versionPlaceholder.toList)
      ((show ['\x7d'] <:+ versionPlaceholder.toList by decide).trans (List.suffix_append ..)) ⟨after, same⟩
    exact inert.notInside ((List.suffix_append ..).isInfix.trans front.isInfix)
  · intro within
    exact noDigit (within.subset (by simp [whole, inside]))
  · intro rest inhabited ends front
    exact inert.notEnded rest inhabited ends
      (prefix_root_of_prefix_outputDir (brace rest ((List.mem_tails rest _).mpr ends) inhabited) front)
  · intro start inhabited ends begins
    rw [whole, ← List.append_assoc] at ends
    rcases List.suffix_or_suffix_of_suffix ends (List.suffix_append ..) with short | long
    · obtain ⟨c, more, rfl⟩ := List.exists_cons_of_ne_nil inhabited
      obtain ⟨after, same⟩ := begins
      obtain rfl : c = '\x7b' := (List.cons.inj same).1
      exact absurd (Version.isVersionCharacter_of_mem (short.subset List.mem_cons_self)) (by decide)
    · exact noDigit (begins.subset (long.subset inside))

/-- An argument as it is meant for a version. -/
def meant (b : Builder) (v : Version) (argument : String) : String :=
  String.ofList (filled (b.outputDir v).text.toList v.text.toList argument.toList)

theorem commandFor_eq (b : Builder) (v : Version) (command : List String) :
    ({ b with command } : Builder).commandFor v =
      command.map fun argument => String.ofList (filledTwice (b.outputDir v).text.toList v.text.toList argument.toList) := by
  simp only [commandFor, replaced, filledTwice, String.toList_ofList]
  rfl

/-- Every command is filled in as it is meant just when the output root is left alone. -/
theorem commandFor_eq_meant_iff (b : Builder) (v : Version) :
    (∀ command, ({ b with command } : Builder).commandFor v = command.map (b.meant v)) ↔ IsInert b.root := by
  have plain : '\x7b' ∉ v.text.toList := fun there => absurd (Version.isVersionCharacter_of_mem there) (by decide)
  constructor
  · intro all
    have same : ∀ argument : List Char, filledTwice (b.outputDir v).text.toList v.text.toList argument =
        filled (b.outputDir v).text.toList v.text.toList argument := by
      intro argument
      have one := all [String.ofList argument]
      rw [commandFor_eq] at one
      exact String.ofList_injective (by simpa [meant] using one)
    constructor
    · rintro ⟨before, after, whole⟩
      have inside : versionPlaceholder.toList <:+: [] ++ (b.outputDir v).text.toList :=
        (List.suffix_append ..).isInfix.trans (prefix_outputDir_of_prefix_root ⟨after, whole⟩).isInfix
      exact filledTwice_ne_filled plain List.nil_prefix (by decide) inside (same _)
    · rintro rest inhabited ⟨start, whole⟩ front
      obtain ⟨after, dir⟩ := prefix_outputDir_of_prefix_root (v := v) front
      have begins : start <+: versionPlaceholder.toList := ⟨rest, whole⟩
      have notWhole : start ≠ versionPlaceholder.toList := by
        intro same
        rw [same] at whole
        exact inhabited (by simpa using whole)
      have inside : versionPlaceholder.toList <:+: start ++ (b.outputDir v).text.toList := ⟨[], after, by simp [← whole, ← dir]⟩
      exact filledTwice_ne_filled plain begins notWhole inside (same _)
  · intro inert command
    rw [commandFor_eq]
    exact List.map_congr_left fun argument _ => congrArg String.ofList (filledTwice_eq_filled (isLeftAlone_of_isInert inert) _)

/-! ## What a build is told and what it uses -/

theorem meant_outputPlaceholder (b : Builder) (v : Version) : b.meant v outputPlaceholder = (b.outputDir v).text := by
  have whole : filled (b.outputDir v).text.toList v.text.toList (outputPlaceholder.toList ++ []) =
      (b.outputDir v).text.toList ++ filled (b.outputDir v).text.toList v.text.toList [] := filled_output
  rw [List.append_nil, filled, List.append_nil] at whole
  rw [meant, whole, String.ofList_toList]

theorem meant_versionPlaceholder (b : Builder) (v : Version) : b.meant v versionPlaceholder = v.text := by
  have whole : filled (b.outputDir v).text.toList v.text.toList (versionPlaceholder.toList ++ []) =
      v.text.toList ++ filled (b.outputDir v).text.toList v.text.toList [] := filled_version
  rw [List.append_nil, filled, List.append_nil] at whole
  rw [meant, whole, String.ofList_toList]

/-- From wherever it is read, an absolute path leads to the same. -/
theorem resolve_of_isAbsolute {path : Path} (absolute : path.isAbsolute = true) (fs : FileSystem) (cwd cwd' : Place) (follow : Bool) :
    fs.resolve cwd path follow = fs.resolve cwd' path follow := by
  unfold FileSystem.resolve
  rw [absolute]
  rfl

/-- One directory is named to the command, made, exported and loaded: every argument is filled in as it is meant, just when the
output root holds no placeholder for the version and does not begin with the end of one. -/
theorem placeholders_filled_iff (b : Builder) (v : Version) :
    ((∀ command, ({ b with command } : Builder).commandFor v = command.map (b.meant v)) ↔ IsInert b.root) ∧
      (b.meant v outputPlaceholder = (b.outputDir v).text ∧ b.meant v versionPlaceholder = v.text) ∧
      (∀ environment i, b.invocation? v environment = some i →
        i.program :: i.arguments = b.commandFor v ∧ i.environment.lookup outputVariable = some (b.outputDir v).text) ∧
      (∀ cwd fs made, b.renew v cwd fs = (.ok (), made) → ∃ place, FileSystem.LeadsTo made cwd (b.outputDir v) place) ∧
      (∀ runner cwd environment fs fs' s, b.build runner cwd environment v fs = (.ok s, fs') →
        s.dir = b.outputDir v ∧ ArtifactSet.load fs' cwd (b.outputDir v) v = .ok s) ∧
      (b.root.isAbsolute = true → ∀ fs cwd cwd' follow,
        FileSystem.resolve fs cwd (b.outputDir v) follow = FileSystem.resolve fs cwd' (b.outputDir v) follow) := by
  refine ⟨commandFor_eq_meant_iff b v, ⟨meant_outputPlaceholder b v, meant_versionPlaceholder b v⟩,
    fun environment i => of_invocation?, fun cwd fs made => exists_leadsTo_of_renew, ?_, ?_⟩
  · intro runner cwd environment fs fs' s built
    have loaded := load_of_build built
    exact ⟨ArtifactSet.dir_of_load loaded, loaded⟩
  · intro absolute fs cwd cwd' follow
    exact resolve_of_isAbsolute ((isAbsolute_outputDir b v).trans absolute) fs cwd cwd' follow

end ReleaseGate.Builder

namespace ReleaseGate.Widget

open Builder

/-- A build of the widget with an output root that holds the placeholder for the version. -/
def versionedRoot : Builder :=
  { command := ["pack", outputPlaceholder], directory := ⟨"/work"⟩, outputRoot := ⟨"out-\x7bversion\x7d"⟩
    versionVariable := "WIDGET_VERSION"
    package := { name := "widget", summary := "A widget", readme := none, contentType := "text/plain" } }

/-- The command is told another directory than the one that is made, exported and loaded. -/
theorem commandFor_versionedRoot :
    versionedRoot.commandFor version = ["pack", "/work/out-v1.2.0/v1.2.0"] ∧
      (versionedRoot.outputDir version).text = "/work/out-\x7bversion\x7d/v1.2.0" ∧
      (versionedRoot.environmentFor version []).lookup outputVariable = some "/work/out-\x7bversion\x7d/v1.2.0" := by
  decide

end ReleaseGate.Widget
