import ReleaseGate.Proofs.Text.Lines
import ReleaseGate.Proofs.Version.Language
import ReleaseGate.Resolver

/-!
# Candidates for versions

What a derivation tool prints before its last line, the local segment of that line and the blanks behind it have no part in the
version that its output names (`lastLine?_append_newline`, `publicPart_trim_append`); and nothing but that output, or the tag,
has a part in the version of a run.
-/

namespace ReleaseGate

open Text

namespace Version

/-- White space around a text makes no difference to what it spells, nor to why it spells nothing. -/
theorem parse_congr {raw raw' : String} (same : trimmed raw = trimmed raw') : parse raw = parse raw' := by
  unfold parse
  rw [same]

end Version

namespace Resolver

/-! ## The last line -/

/-- The lines of a text that are not blank, without the blanks around them. -/
def filledLines (lines : List (List Char)) : List (List Char) := (lines.map trim).filter fun line => !line.isEmpty

theorem filledLines_append (before after : List (List Char)) :
    filledLines (before ++ after) = filledLines before ++ filledLines after := by
  unfold filledLines
  rw [List.map_append, List.filter_append]

theorem filledLines_cons {line : List Char} (filled : trim line ≠ []) (rest : List (List Char)) :
    filledLines (line :: rest) = trim line :: filledLines rest := by
  unfold filledLines
  rw [List.map_cons, List.filter_cons_of_pos (by simpa using filled)]

/-- No line of a blank text is filled. -/
theorem filledLines_lines_blank {blank : List Char} (isBlank_blank : ∀ c ∈ blank, isBlank c = true) :
    filledLines (lines blank) = [] := by
  unfold filledLines
  rw [List.filter_eq_nil_iff, List.forall_mem_map]
  intro line hline
  rw [trim_eq_nil fun c hc => isBlank_blank c (mem_of_mem_lines hline hc).1]
  exact nofun

/-- The last line that is not blank is the same whatever stands on the lines before it, and whatever blanks follow it. -/
theorem lastLine?_append_newline (before : List Char) {line blank : List Char} (oneLine : '\n' ∉ line) (filled : trim line ≠ [])
    (isBlank_blank : ∀ c ∈ blank, isBlank c = true) :
    lastLine? (before ++ '\n' :: (line ++ '\n' :: blank)) = some (trim line) := by
  have ended : filledLines (lines (line ++ '\n' :: blank)) = [trim line] := by
    rw [lines_append oneLine, filledLines_cons (by rwa [trim_dropCarriageReturn]), trim_dropCarriageReturn,
      filledLines_lines_blank isBlank_blank]
  show (filledLines (lines (before ++ '\n' :: (line ++ '\n' :: blank)))).getLast? = _
  rw [lines_append_newline, filledLines_append, ended, List.getLast?_concat]

/-- A text of one line that is not blank has that line for its last. -/
theorem lastLine?_of_oneLine {line : List Char} (oneLine : '\n' ∉ line) (filled : trim line ≠ []) :
    lastLine? line = some (trim line) := by
  have something : line ≠ [] := by
    rintro rfl
    exact filled rfl
  show (filledLines (lines line)).getLast? = _
  rw [lines_eq_singleton oneLine something, filledLines_cons filled]
  rfl

/-! ## The public part -/

theorem isBlank_localMark : isBlank localMark = false := by decide

/-- A line is cut before its local segment, and the white space behind the segment goes with it. -/
theorem publicPart_trim_append {line : List Char} (noMark : localMark ∉ line) (rest : List Char) :
    publicPart (trim (line ++ localMark :: rest)) = trimStart line := by
  have without : ∀ c ∈ trimStart line, (c == localMark) = false := by
    intro c hc
    refine beq_false_of_ne ?_
    rintro rfl
    exact noMark ((List.dropWhile_sublist isBlank).subset hc)
  unfold publicPart
  rw [trim, trimStart_append_cons isBlank_localMark, trimEnd_append_cons isBlank_localMark,
    cutAtFirst_append without (beq_self_eq_true localMark)]

theorem publicPart_of_noMark {line : List Char} (noMark : localMark ∉ line) : publicPart line = line := by
  have without : ∀ c ∈ line, (c == localMark) = false := by
    intro c hc
    refine beq_false_of_ne ?_
    rintro rfl
    exact noMark hc
  unfold publicPart
  rw [cutAtFirst_eq_none without]

/-! ## What an output names -/

/-- An output names what the public part of its last line spells. -/
theorem normalize_of_lastLine {raw : String} {line : List Char} (last : lastLine? raw.toList = some line) :
    normalize raw = (Version.parse (String.ofList (publicPart line))).mapError .candidate := by
  unfold normalize
  rw [last]
  dsimp only
  cases Version.parse (String.ofList (publicPart line)) <;> rfl

/-- A line without a local segment names what it spells. -/
theorem normalize_of_oneLine {line : String} (oneLine : '\n' ∉ line.toList) (noMark : localMark ∉ line.toList)
    (filled : trimmed line ≠ "") : normalize line = (Version.parse line).mapError .candidate := by
  have something : trim line.toList ≠ [] := fun nothing => filled (by rw [trimmed, nothing])
  have noMark' : localMark ∉ trim line.toList := by
    intro there
    have start := trimEnd_prefix (trimStart line.toList)
    exact noMark ((List.dropWhile_sublist isBlank).subset (start.subset there))
  rw [normalize_of_lastLine (lastLine?_of_oneLine oneLine something), publicPart_of_noMark noMark']
  exact congrArg _ (Version.parse_congr (trimmed_trimmed line))

/-- The lines before the last, its local segment and the blanks behind it have no part in what an output names. -/
theorem normalize_append {line localPart blank : String} (before : String) (oneLine : '\n' ∉ line.toList)
    (noMark : localMark ∉ line.toList) (filled : trimmed line ≠ "") (oneLine' : '\n' ∉ localPart.toList)
    (isBlank_blank : isBlankText blank = true) :
    normalize (before ++ "\n" ++ line ++ "+" ++ localPart ++ "\n" ++ blank) = normalize line := by
  have whole : (before ++ "\n" ++ line ++ "+" ++ localPart ++ "\n" ++ blank).toList =
      before.toList ++ '\n' :: ((line.toList ++ localMark :: localPart.toList) ++ '\n' :: blank.toList) := by
    simp [localMark]
  have noNewline : '\n' ∉ line.toList ++ localMark :: localPart.toList := by
    rw [List.mem_append, List.mem_cons]
    rintro (inLine | isMark | inLocal)
    · exact oneLine inLine
    · exact absurd isMark (by decide)
    · exact oneLine' inLocal
  have something : trim (line.toList ++ localMark :: localPart.toList) ≠ [] := by
    rw [trim, trimStart_append_cons isBlank_localMark, trimEnd_append_cons isBlank_localMark]
    exact List.append_ne_nil_of_right_ne_nil _ (List.cons_ne_nil _ _)
  have last := lastLine?_append_newline before.toList noNewline something (List.all_eq_true.mp isBlank_blank)
  rw [← whole] at last
  have same : trimmed (String.ofList (trimStart line.toList)) = trimmed line := by
    rw [trimmed, String.toList_ofList, trim_trimStart, trimmed]
  rw [normalize_of_lastLine last, publicPart_trim_append noMark, Version.parse_congr same,
    normalize_of_oneLine oneLine noMark filled]

/-- The text of a version names that version. -/
theorem normalize_text (v : Version) : normalize v.text = .ok v := by
  have plain : ∀ {c : Char}, c ∈ v.text.toList → c ≠ '+' ∧ isBlank c = false ∧ c ≠ '/' := Version.plain_of_mem_text
  have oneLine : '\n' ∉ v.text.toList := fun there => absurd (plain there).2.1 (by decide)
  have parsed := v.parse_text
  have filled : trimmed v.text ≠ "" := by
    intro nothing
    have refused : Version.parse v.text = .error .empty := by
      unfold Version.parse
      rw [nothing]
      rfl
    rw [refused] at parsed
    cases parsed
  rw [normalize_of_oneLine oneLine (fun there => (plain there).1 rfl) filled, parsed]
  rfl

/-! ## The version of a run -/

/-- The version of a run that is not on a tag is what the output of the source names, whatever started the run. -/
theorem resolve_of_branch {σ : Type} {c : RunContext} (branch : c.isTagRef = false) (source : σ → Except Failure String × σ)
    (s : σ) :
    resolve source c s = ((source s).1.bind fun raw => (normalize raw).mapError .versionResolution, (source s).2) := by
  have noTag : c.tagName? = none := by simp [RunContext.tagName?, branch]
  unfold resolve
  rw [noTag]
  dsimp only
  cases source s with
  | mk answer s' => cases answer <;> rfl

/-- The version of a run on a tag is the tag; whatever source there is, it is not asked. -/
theorem resolve_of_tag {σ : Type} {c : RunContext} {tag : String} (h : c.tagName? = some tag)
    (source : σ → Except Failure String × σ) (s : σ) :
    resolve source c s = ((Version.parse tag).mapError fun e => .versionResolution (.tag tag e), s) := by
  unfold resolve
  rw [h]
  dsimp only [ofTag]
  cases Version.parse tag <;> rfl

/-- An output names what its last line spells: what stands before that line, its local segment and the blanks behind it make no
difference, nor to why nothing is named; and the text of a version names that version. A run that is not on a tag has the version
that the output of the source names, or the failure of the source, whatever started the run; a run on a tag has the version that
the tag spells, or a failure to resolve a version, and what the source would say has no part in it. -/
theorem resolves_by_candidate {σ : Type} (c : RunContext) :
    (∀ before line localPart blank : String, '\n' ∉ line.toList → '+' ∉ line.toList → trimmed line ≠ "" →
      '\n' ∉ localPart.toList → isBlankText blank = true →
      normalize (before ++ "\n" ++ line ++ "+" ++ localPart ++ "\n" ++ blank) = normalize line ∧
        normalize line = (Version.parse line).mapError .candidate) ∧
      (∀ v : Version, normalize v.text = .ok v) ∧
      (c.isTagRef = false → ∀ (source : σ → Except Failure String × σ) (s : σ),
        resolve source c s = ((source s).1.bind fun raw => (normalize raw).mapError .versionResolution, (source s).2)) ∧
      (c.isTagRef = true → ∃ tag, c.tagName? = some tag ∧ ∀ (source : σ → Except Failure String × σ) (s : σ),
        resolve source c s = ((Version.parse tag).mapError fun e => .versionResolution (.tag tag e), s)) := by
  refine ⟨?_, normalize_text, resolve_of_branch, fun tagged => ?_⟩
  · intro before line localPart blank oneLine noMark filled oneLine' isBlank_blank
    exact ⟨normalize_append before oneLine noMark filled oneLine' isBlank_blank, normalize_of_oneLine oneLine noMark filled⟩
  · have named : c.tagName? = some ((withoutStart? tagStart c.gitRef).getD c.gitRef) := by simp [RunContext.tagName?, tagged]
    exact ⟨_, named, resolve_of_tag named⟩

/-- A chatty tool that prints a development version with a local segment, and a run on a tag that does not ask it. -/
theorem resolves_by_candidate_chatty :
    let output := "warning: a+b\r\nguessing" ++ "\n" ++ " 1.2.4.dev3 " ++ "+" ++ "g4f9a\r" ++ "\n" ++ " \n\t"
    let push : RunContext := { eventKind := .push, gitRef := "refs/heads/main", repository := "acme/widget", isTagRef := false }
    let release : RunContext :=
      { eventKind := .releasePublished, gitRef := "refs/tags/v1.4.0", repository := "acme/widget", isTagRef := true }
    let source : Nat → Except Failure String × Nat := fun asked => (.ok output, asked + 1)
    normalize output = (Version.parse " 1.2.4.dev3 ").mapError .candidate ∧
      resolve source push 0 = ((normalize output).mapError .versionResolution, 1) ∧
      ∃ tag, release.tagName? = some tag ∧
        resolve source release 0 = ((Version.parse tag).mapError fun e => .versionResolution (.tag tag e), 0) := by
  intro output push release source
  obtain ⟨chatter, -, branch, -⟩ := resolves_by_candidate (σ := Nat) push
  obtain ⟨-, -, -, onTag⟩ := resolves_by_candidate (σ := Nat) release
  obtain ⟨same, spelled⟩ := chatter "warning: a+b\r\nguessing" " 1.2.4.dev3 " "g4f9a\r" " \n\t" (by decide) (by decide) (by decide)
    (by decide) (by decide)
  obtain ⟨tag, named, resolved⟩ := onTag rfl
  exact ⟨same.trans spelled, branch rfl source 0, tag, named, resolved source 0⟩

end Resolver

end ReleaseGate
