import ReleaseGate.Proofs.Report.Reasons
import ReleaseGate.Proofs.Version.Language
import ReleaseGate.Publish.Index

/-!
# The tables of a summary

A table stands under the title of its section: a blank line and the two lines of its head follow the title, and then there is a row
on each line up to the next blank one (`rowsUnder`). The tables of the channels and of the tasks have one row for each, in order,
just when the wording of each status is one line (`tables_iff`); no other character does any harm. The explanation of a refusal is
shown as the registry worded it, newlines and all, so a registry can break the rows, and write rows of its own (`refused_rows`).
-/

namespace ReleaseGate

open Text

/-! ## Rows under a title -/

/-- The rows of the table under a title. -/
def rowsUnder (title : String) (lines : List String) : List String :=
  ((lines.dropWhile (· != title)).drop 4).takeWhile (· != "")

theorem rowsUnder_subset (title : String) (lines : List String) : rowsUnder title lines ⊆ lines := fun _ row =>
  (List.dropWhile_sublist _).subset ((List.drop_sublist ..).subset (List.takeWhile_subset _ row))

theorem forall_bne_of_notMem {line : String} {lines : List String} (without : line ∉ lines) :
    ∀ other ∈ lines, (other != line) = true := by
  intro other there
  refine bne_iff_ne.mpr ?_
  rintro rfl
  exact without there

/-- There are no rows where there is no such title. -/
theorem rowsUnder_eq_nil {title : String} {lines : List String} (without : title ∉ lines) : rowsUnder title lines = [] := by
  have passed := @List.dropWhile_append_of_pos _ _ lines [] (forall_bne_of_notMem without)
  rw [List.append_nil] at passed
  rw [rowsUnder, passed]
  rfl

/-- The rows stand between the head of the table and the end of the text or a blank line. -/
theorem rowsUnder_section {title : String} {above rows below : List String} (without : title ∉ above) (blank upper lower : String)
    (filled : "" ∉ rows) (ends : ∀ line ∈ below.head?, line = "") :
    rowsUnder title (above ++ [title, blank, upper, lower] ++ rows ++ below) = rows := by
  have stops : below.takeWhile (· != "") = [] := by
    cases below with
    | nil => rfl
    | cons line more =>
      obtain rfl := ends line rfl
      rfl
  unfold rowsUnder
  rw [List.append_assoc, List.append_assoc, List.dropWhile_append_of_pos (forall_bne_of_notMem without)]
  simp only [List.cons_append, List.nil_append, List.dropWhile_cons, bne_self_eq_false, Bool.false_eq_true, if_false,
    List.drop_succ_cons, List.drop_zero]
  rw [List.takeWhile_append_of_pos (forall_bne_of_notMem filled), stops, List.append_nil]

/-! ## Rows -/

/-- A line of a table, between two bars. -/
def IsRow (line : String) : Prop := ∃ cells, line = "|" ++ cells ++ "|"

/-- A row begins with a bar. -/
theorem IsRow.head? {line : String} (h : IsRow line) : line.toList.head? = some '|' := by
  obtain ⟨cells, rfl⟩ := h
  rw [String.toList_append, String.toList_append]
  rfl

theorem IsRow.ne_empty {line : String} (h : IsRow line) : line ≠ "" := by
  rintro rfl
  cases h.head?

/-- The line that a row ends is the row. -/
theorem IsRow.linesOf_append {line : String} (h : IsRow line) (oneLine : IsOneLine line) : linesOf (line ++ "\n") = [line] := by
  refine linesOf_line oneLine ?_
  obtain ⟨cells, rfl⟩ := h
  have bar : "|".toList = ['|'] := rfl
  rw [String.toList_append, bar, List.getLast?_concat]
  decide

namespace RunReport

section Table

variable {α : Type} {row line : α → String} (isRow : ∀ a, IsRow (line a)) (ended : ∀ a, row a = line a ++ "\n")
include ended

theorem isWhole_of_mem_rows {as : List α} : ∀ s ∈ as.map row, IsWhole s := by
  intro s there
  obtain ⟨a, -, rfl⟩ := List.mem_map.mp there
  rw [ended a]
  exact isWhole_append_newline _

theorem isWhole_rows (as : List α) : IsWhole (concat row as) := (linesOf_join (isWhole_of_mem_rows ended)).1

/-- The lines of a text with a table are those above it, its title and its head, its rows, and the lines below it. -/
theorem linesOf_table (as : List α) {above head title blank upper lower : String} (aboveWhole : IsWhole above)
    (headWhole : IsWhole head) (headed : linesOf head = [title, blank, upper, lower]) (below : String) :
    linesOf (above ++ head ++ concat row as ++ below) =
      linesOf above ++ [title, blank, upper, lower] ++ linesOf (concat row as) ++ linesOf below := by
  rw [((aboveWhole.append headWhole).append (isWhole_rows ended as)).linesOf_append, (aboveWhole.append headWhole).linesOf_append,
    aboveWhole.linesOf_append, headed]

include isRow

/-- Rows that are one line each are the lines of a table. -/
theorem linesOf_rows {as : List α} (oneLine : ∀ a ∈ as, IsOneLine (line a)) : linesOf (concat row as) = as.map line := by
  rw [concat, (linesOf_join (isWhole_of_mem_rows ended)).2, List.flatMap_map, List.map_eq_flatMap]
  refine congrArg List.flatten (List.map_congr_left fun a there => ?_)
  rw [ended a]
  exact (isRow a).linesOf_append (oneLine a there)

/-- The rows of a table are all there, in order and nothing else, just when each is one line. -/
theorem rowsUnder_iff (as : List α) {above head below title blank upper lower : String} (aboveWhole : IsWhole above)
    (without : title ∉ linesOf above) (headWhole : IsWhole head) (headed : linesOf head = [title, blank, upper, lower])
    (ends : ∀ line ∈ (linesOf below).head?, line = "") :
    rowsUnder title (linesOf (above ++ head ++ concat row as ++ below)) = as.map line ↔ ∀ a ∈ as, IsOneLine (line a) := by
  constructor
  · -- what is found is among the lines of the text, and a broken row is none of them
    intro rows a there
    have shown : line a ∈ as.map line := List.mem_map_of_mem there
    rw [← rows] at shown
    exact isOneLine_of_mem_linesOf (rowsUnder_subset _ _ shown)
  · intro oneLine
    have filled : "" ∉ as.map line := by
      intro empty
      obtain ⟨a, -, same⟩ := List.mem_map.mp empty
      exact (isRow a).ne_empty same
    rw [linesOf_table ended as aboveWhole headWhole headed, linesOf_rows isRow ended oneLine,
      rowsUnder_section without blank upper lower filled ends]

end Table

/-- The row of a channel. -/
def channelLine (c : Channel × ChannelStatus) : String := s!"| {c.1} | {c.2.text} |"

/-- The row of a task. -/
def taskLine (t : TaskRecord) : String := s!"| {t.task.name} | {t.status.text} | {t.durationMs.toNat} |"

theorem isRow_channelLine (c : Channel × ChannelStatus) : IsRow (channelLine c) := by
  refine ⟨s!" {c.1} | {c.2.text} ", ?_⟩
  rw [← String.toList_inj]
  simp only [channelLine, String.toList_append, List.append_assoc]
  rfl

theorem channelRow_eq (c : Channel × ChannelStatus) : channelRow c = channelLine c ++ "\n" := by
  rw [← String.toList_inj]
  simp only [channelRow, channelLine, String.toList_append, List.append_assoc]
  rfl

theorem isRow_taskLine (t : TaskRecord) : IsRow (taskLine t) := by
  refine ⟨s!" {t.task.name} | {t.status.text} | {t.durationMs.toNat} ", ?_⟩
  rw [← String.toList_inj]
  simp only [taskLine, String.toList_append, List.append_assoc]
  rfl

theorem taskRow_eq (t : TaskRecord) : taskRow t = taskLine t ++ "\n" := by
  rw [← String.toList_inj]
  simp only [taskRow, taskLine, String.toList_append, List.append_assoc]
  rfl

/-- No newline stands between the cells of a row. -/
theorem isOneLine_bars : IsOneLine "| " ∧ IsOneLine " | " ∧ IsOneLine " |" := by decide

/-- Only the wording of the status can break the row of a channel. -/
theorem isOneLine_channelLine_iff (c : Channel × ChannelStatus) : IsOneLine (channelLine c) ↔ IsOneLine c.2.text := by
  obtain ⟨c, status⟩ := c
  have name : IsOneLine c.name := by cases c <;> decide
  show IsOneLine ("| " ++ c.name ++ " | " ++ status.text ++ " |") ↔ IsOneLine status.text
  simp [isOneLine_bars, name]

theorem isOneLine_taskLine_iff (t : TaskRecord) : IsOneLine (taskLine t) ↔ IsOneLine t.status.text := by
  have name : IsOneLine t.task.name := by cases t.task <;> decide
  show IsOneLine ("| " ++ t.task.name ++ " | " ++ t.status.text ++ " | " ++ toString t.durationMs.toNat ++ " |") ↔ _
  simp [isOneLine_bars, name]

/-! ## What stands above the tables -/

/-- What a summary tells before its channels. -/
def opening (r : RunReport) : String := r.heading ++ r.facts ++ artifactSection r.artifacts ++ textOf verdictSection r.verdict

theorem summary_eq_opening (r : RunReport) : r.summary = r.opening ++ r.channelSection ++ taskSection r.tasks := rfl

theorem isWhole_opening (r : RunReport) : IsWhole r.opening := by
  have artifacts : IsWhole (artifactSection r.artifacts) := by
    unfold artifactSection
    split
    · exact .inl rfl
    · exact isWhole_append_newline _
  have verdict : IsWhole (textOf verdictSection r.verdict) := by
    rcases r.verdict with _ | _ | issues
    · exact .inl rfl
    · exact isWhole_append_newline "## Verification\n\nAll checks passed.\n"
    · exact isWhole_append_newline _
  exact ((r.isWhole_heading.append (isWhole_append_newline _)).append artifacts).append verdict

/-- No text that a report records above its channels is broken into lines. -/
structure IsUnbroken (r : RunReport) : Prop where
  context : ∀ c ∈ r.context, IsOneLine c.gitRef ∧ IsOneLine c.repository
  decision : ∀ d ∈ r.decision, IsOneLine d.text
  error : ∀ e ∈ r.error, IsOneLine e
  artifacts : ∀ a ∈ r.artifacts, IsOneLine a.fileName ∧ IsOneLine a.sha256
  issues : ∀ v ∈ r.verdict, ∀ i ∈ v.issues, IsOneLine i.line

/-- A text of whole lines, none of which is a given title. -/
structure Lacks (title s : String) : Prop where
  whole : IsWhole s
  absent : title ∉ linesOf s

theorem Lacks.append {title s t : String} (hs : Lacks title s) (ht : Lacks title t) : Lacks title (s ++ t) := by
  refine ⟨hs.whole.append ht.whole, ?_⟩
  rw [hs.whole.linesOf_append, List.mem_append, not_or]
  exact ⟨hs.absent, ht.absent⟩

theorem lacks_concat {α : Type} {title : String} {f : α → String} {as : List α} (each : ∀ a ∈ as, Lacks title (f a)) :
    Lacks title (concat f as) := by
  have pieces : ∀ s ∈ as.map f, Lacks title s := by
    intro s there
    obtain ⟨a, ha, rfl⟩ := List.mem_map.mp there
    exact each a ha
  obtain ⟨whole, lines⟩ := linesOf_join fun s there => (pieces s there).whole
  refine ⟨whole, ?_⟩
  rw [concat, lines, List.mem_flatMap]
  rintro ⟨s, there, titled⟩
  exact (pieces s there).absent titled

theorem lacks_textOf {α : Type} {title : String} {f : α → String} {a : Option α} (each : ∀ x ∈ a, Lacks title (f x)) :
    Lacks title (textOf f a) := by
  cases a with
  | none => exact ⟨.inl rfl, List.not_mem_nil⟩
  | some x => exact each x rfl

theorem isOneLine_inlineCode_iff (s : String) : IsOneLine (inlineCode s) ↔ IsOneLine s := by
  have mark : IsOneLine "\x60" := by decide
  simp [inlineCode, mark]

theorem isOneLine_versionText (v : Version) : IsOneLine v.text := by
  intro newline
  cases (Version.plain_of_mem_text newline).2.1

/-- The titles of the tables that show how channels and tasks ended. -/
def IsTitle (title : String) : Prop := title = "## Channels" ∨ title = "## Tasks"

section Titles

variable {title : String} (own : IsTitle title)
include own

theorem IsTitle.head? : title.toList.head? = some '#' := by rcases own with rfl | rfl <;> rfl

theorem lacks_fixed {s : String} (whole : IsWhole s) (channels : "## Channels" ∉ linesOf s) (tasks : "## Tasks" ∉ linesOf s) :
    Lacks title s := by
  refine ⟨whole, ?_⟩
  rcases own with rfl | rfl
  · exact channels
  · exact tasks

theorem lacks_newline : Lacks title "\n" := lacks_fixed own (isWhole_append_newline "") (by decide) (by decide)

/-- A line that does not begin as a title does is none. -/
theorem lacks_line {start rest : String} (other : start.toList.head?.any (· != '#') = true) (startOneLine : IsOneLine start)
    (oneLine : IsOneLine rest) : Lacks title (start ++ rest ++ "\n") := by
  refine ⟨isWhole_append_newline _, ?_⟩
  rw [linesOf_ended ((isOneLine_append_iff ..).mpr ⟨startOneLine, oneLine⟩), List.mem_singleton]
  rintro rfl
  obtain ⟨c, front, different⟩ := (Option.any_eq_true ..).mp other
  -- a carriage return at the end is not shown, so the title would only begin the line
  have same : (start ++ rest).toList.head? = some '#' := by
    have titled := own.head?
    rw [String.toList_ofList] at titled
    obtain ⟨cut, whole⟩ := isPrefix_dropCarriageReturn (start ++ rest).toList
    rw [← whole, List.head?_append, titled]
    rfl
  rw [String.toList_append, List.head?_append, front] at same
  exact bne_iff_ne.mp different (Option.some.inj same)

theorem lacks_code {label s : String} (other : label.toList.head?.any (· != '#') = true) (labelOneLine : IsOneLine label)
    (oneLine : IsOneLine s) : Lacks title (label ++ inlineCode s ++ "\n") :=
  lacks_line own other labelOneLine ((isOneLine_inlineCode_iff s).mpr oneLine)

theorem lacks_contextItems {c : RunContext} (ref : IsOneLine c.gitRef) (repository : IsOneLine c.repository) :
    Lacks title (contextItems c) := by
  have kind : IsOneLine c.eventKind.name := by cases c.eventKind <;> decide
  have items : contextItems c = "- event: " ++ inlineCode c.eventKind.name ++ "\n" ++ ("- ref: " ++ inlineCode c.gitRef ++ "\n")
      ++ ("- repository: " ++ inlineCode c.repository ++ "\n") := by
    unfold contextItems
    rw [← String.toList_inj]
    simp only [String.toList_append, List.append_assoc]
    rfl
  rw [items]
  exact ((lacks_code own (by decide) (by decide) kind).append (lacks_code own (by decide) (by decide) ref)).append
    (lacks_code own (by decide) (by decide) repository)

theorem lacks_facts {r : RunReport} (unbroken : r.IsUnbroken) : Lacks title r.facts := by
  have context : ∀ c ∈ r.context, Lacks title (contextItems c) := fun c there =>
    lacks_contextItems own (unbroken.context c there).1 (unbroken.context c there).2
  have version : ∀ v ∈ r.version, Lacks title s!"- version: {inlineCode v.text}\n" := fun v _ =>
    lacks_code own (by decide) (by decide) (isOneLine_versionText v)
  have decision : ∀ d ∈ r.decision, Lacks title s!"- decision: {d.text}\n" := fun d there =>
    lacks_line own (by decide) (by decide) (unbroken.decision d there)
  have error : ∀ e ∈ r.error, Lacks title s!"- error: {e}\n" := fun e there =>
    lacks_line own (by decide) (by decide) (unbroken.error e there)
  exact ((((lacks_textOf context).append (lacks_textOf version)).append (lacks_textOf decision)).append
    (lacks_textOf error)).append (lacks_newline own)

theorem lacks_artifactRow {a : Artifact} (file : IsOneLine a.fileName) (digest : IsOneLine a.sha256) :
    Lacks title (artifactRow a) := by
  have row : artifactRow a = "| " ++ (inlineCode a.fileName ++ " | " ++ a.size.toNat.repr ++ " | " ++ inlineCode a.sha256 ++ " |")
      ++ "\n" := by
    rw [← String.toList_inj]
    simp only [artifactRow, String.toList_append, List.append_assoc]
    rfl
  rw [row]
  refine lacks_line own (by decide) isOneLine_bars.1 ?_
  simp [isOneLine_bars, isOneLine_inlineCode_iff, file, digest]

theorem lacks_artifactSection {artifacts : List Artifact}
    (oneLine : ∀ a ∈ artifacts, IsOneLine a.fileName ∧ IsOneLine a.sha256) : Lacks title (artifactSection artifacts) := by
  unfold artifactSection
  split
  · exact ⟨.inl rfl, List.not_mem_nil⟩
  · have head := isWhole_append_newline "## Artifacts\n\n| file | bytes | sha256 |\n|---|---|---|"
    refine ((lacks_fixed own head (by decide) (by decide)).append (lacks_concat fun a there => ?_)).append (lacks_newline own)
    exact lacks_artifactRow own (oneLine a there).1 (oneLine a there).2

theorem lacks_verdictSection {v : Verdict} (oneLine : ∀ i ∈ v.issues, IsOneLine i.line) : Lacks title (verdictSection v) := by
  cases v with
  | pass =>
    exact lacks_fixed own (isWhole_append_newline "## Verification\n\nAll checks passed.\n") (by decide) (by decide)
  | fail issues =>
    have head := isWhole_append_newline "## Verification\n"
    refine ((lacks_fixed own head (by decide) (by decide)).append (lacks_concat fun i there => ?_)).append (lacks_newline own)
    exact lacks_line own (by decide) (by decide) (oneLine i there)

/-- What stands above the tables is not taken for the title of one, unless a text that is recorded there is broken into lines. -/
theorem lacks_opening {r : RunReport} (unbroken : r.IsUnbroken) : Lacks title r.opening := by
  have heading : Lacks title r.heading := by
    refine lacks_fixed own r.isWhole_heading ?_ ?_
    all_goals
      rw [heading_eq]
      cases r.succeeded <;> decide
  have artifacts := lacks_artifactSection own unbroken.artifacts
  have verdict : ∀ v ∈ r.verdict, Lacks title (verdictSection v) := fun v there =>
    lacks_verdictSection own (unbroken.issues v there)
  exact ((heading.append (lacks_facts own unbroken)).append artifacts).append (lacks_textOf verdict)

end Titles

/-! ## The tables -/

/-- The title of the channels, with the head of their table. -/
def channelHead : String := "## Channels\n\n| channel | status |\n|---|---|\n"

/-- The title of the tasks, with the head of their table. -/
def taskHead : String := "## Tasks\n\n| task | status | ms |\n|---|---|---|\n"

theorem isWhole_channelHead : IsWhole channelHead := isWhole_append_newline "## Channels\n\n| channel | status |\n|---|---|"

theorem isWhole_taskHead : IsWhole taskHead := isWhole_append_newline "## Tasks\n\n| task | status | ms |\n|---|---|---|"

theorem linesOf_channelHead : linesOf channelHead = ["## Channels", "", "| channel | status |", "|---|---|"] := by decide +kernel

theorem linesOf_taskHead : linesOf taskHead = ["## Tasks", "", "| task | status | ms |", "|---|---|---|"] := by decide +kernel

theorem channelSection_eq (r : RunReport) : r.channelSection = channelHead ++ concat channelRow r.channels.entries := rfl

theorem taskSection_eq {tasks : List TaskRecord} (some : tasks ≠ []) :
    taskSection tasks = "\n" ++ taskHead ++ concat taskRow tasks := by
  unfold taskSection
  rw [if_neg (by rwa [List.isEmpty_iff])]
  rfl

/-- A blank line stands between the channels and the tasks, if there are any. -/
theorem head?_linesOf_taskSection (tasks : List TaskRecord) : ∀ line ∈ (linesOf (taskSection tasks)).head?, line = "" := by
  rcases Decidable.em (tasks = []) with rfl | some
  · nofun
  · have blank : IsWhole "\n" := isWhole_append_newline ""
    rw [taskSection_eq some, String.append_assoc, blank.linesOf_append]
    exact fun line first => (Option.some.inj first).symm

theorem summary_eq_channels (r : RunReport) :
    r.summary = r.opening ++ channelHead ++ concat channelRow r.channels.entries ++ taskSection r.tasks := by
  rw [summary_eq_opening, channelSection_eq]
  simp only [String.append_assoc]

/-- The table of the channels has a row for each just when each of their statuses is one line. -/
theorem rowsUnder_channels_iff {r : RunReport} (without : "## Channels" ∉ linesOf r.opening) :
    rowsUnder "## Channels" (linesOf r.summary) = r.channels.entries.map channelLine ↔
      ∀ c ∈ r.channels.entries, IsOneLine c.2.text := by
  rw [summary_eq_channels, rowsUnder_iff isRow_channelLine channelRow_eq _ r.isWhole_opening without isWhole_channelHead
    linesOf_channelHead (head?_linesOf_taskSection r.tasks)]
  simp only [isOneLine_channelLine_iff]

theorem isWhole_channelSection (r : RunReport) : IsWhole r.channelSection :=
  isWhole_channelHead.append (isWhole_rows channelRow_eq _)

/-- The rows of the channels are not taken for the title of the tasks, unless one is broken into lines. -/
theorem lacks_channelSection {r : RunReport} (oneLine : ∀ c ∈ r.channels.entries, IsOneLine c.2.text) :
    Lacks "## Tasks" r.channelSection := by
  refine ⟨r.isWhole_channelSection, ?_⟩
  rw [channelSection_eq, isWhole_channelHead.linesOf_append, linesOf_channelHead,
    linesOf_rows isRow_channelLine channelRow_eq fun c there => (isOneLine_channelLine_iff c).mpr (oneLine c there),
    List.mem_append, not_or]
  refine ⟨by decide, fun titled => ?_⟩
  obtain ⟨c, -, same⟩ := List.mem_map.mp titled
  have bar := (isRow_channelLine c).head?
  rw [same] at bar
  cases bar

/-- The table of the tasks has a row for each just when each of their statuses is one line. -/
theorem rowsUnder_tasks_iff {r : RunReport} (without : "## Tasks" ∉ linesOf (r.opening ++ r.channelSection)) :
    rowsUnder "## Tasks" (linesOf r.summary) = r.tasks.map taskLine ↔ ∀ t ∈ r.tasks, IsOneLine t.status.text := by
  have nothing : taskSection [] = "" := rfl
  rcases Decidable.em (r.tasks = []) with none | some
  · rw [summary_eq_opening, none, nothing, String.append_empty, rowsUnder_eq_nil without]
    exact ⟨nofun, fun _ => rfl⟩
  · have above := Lacks.append ⟨r.isWhole_opening.append r.isWhole_channelSection, without⟩ (lacks_newline (.inr rfl))
    have parts : r.summary = r.opening ++ r.channelSection ++ "\n" ++ taskHead ++ concat taskRow r.tasks ++ taskSection [] := by
      rw [summary_eq_opening, taskSection_eq some, nothing]
      simp only [String.append_assoc, String.append_empty]
    rw [parts, rowsUnder_iff isRow_taskLine taskRow_eq _ above.whole above.absent isWhole_taskHead linesOf_taskHead
      (head?_linesOf_taskSection [])]
    simp only [isOneLine_taskLine_iff]

/-- Below its title, the table of the channels and that of the tasks has one row for each, in order and with its status, just when
the wording of each status is one line. A text that is recorded above a title can stand in for it only when it is broken into
lines. -/
theorem tables_iff {r : RunReport} {staging production : ChannelStatus} (both : r.channels = ⟨some staging, some production⟩) :
    (r.IsUnbroken → "## Channels" ∉ linesOf r.opening ∧
      (IsOneLine staging.text → IsOneLine production.text → "## Tasks" ∉ linesOf (r.opening ++ r.channelSection))) ∧
      ("## Channels" ∉ linesOf r.opening →
        (rowsUnder "## Channels" (linesOf r.summary) =
            [s!"| staging | {staging.text} |", s!"| production | {production.text} |"] ↔
          IsOneLine staging.text ∧ IsOneLine production.text)) ∧
      ("## Tasks" ∉ linesOf (r.opening ++ r.channelSection) →
        (rowsUnder "## Tasks" (linesOf r.summary) =
            r.tasks.map (fun t => s!"| {t.task.name} | {t.status.text} | {t.durationMs.toNat} |") ↔
          ∀ t ∈ r.tasks, IsOneLine t.status.text)) := by
  have entries : r.channels.entries = [(.staging, staging), (.production, production)] := by
    rw [both]
    rfl
  have statuses : (∀ c ∈ r.channels.entries, IsOneLine c.2.text) ↔ IsOneLine staging.text ∧ IsOneLine production.text := by
    rw [entries]
    simp
  have rows : r.channels.entries.map channelLine = [s!"| staging | {staging.text} |", s!"| production | {production.text} |"] := by
    rw [entries]
    rfl
  refine ⟨fun unbroken => ⟨(lacks_opening (.inl rfl) unbroken).absent, fun stagingOneLine productionOneLine => ?_⟩, ?_,
    rowsUnder_tasks_iff⟩
  · have channels := lacks_channelSection (statuses.mpr ⟨stagingOneLine, productionOneLine⟩)
    exact ((lacks_opening (.inr rfl) unbroken).append channels).absent
  · intro without
    rw [← rows, rowsUnder_channels_iff without, statuses]

/-- The report of a run in which staging failed for a reason with a bar in it, as between the cells of a row. -/
def barred : RunReport :=
  { RunReport.start .zero .epoch with
    channels := ⟨some (.failed "HTTP 500 | try again"), some .cancelled⟩
    tasks := [⟨.stagingPublish, .failed "HTTP 500 | try again", 7⟩] }

/-- The bar breaks no row. -/
theorem tables_iff_barred :
    barred.channels = ⟨some (.failed "HTTP 500 | try again"), some .cancelled⟩ ∧ barred.IsUnbroken ∧
      rowsUnder "## Channels" (linesOf barred.summary) =
        ["| staging | failed: HTTP 500 | try again |", "| production | cancelled |"] ∧
      rowsUnder "## Tasks" (linesOf barred.summary) = ["| staging_publish | failed: HTTP 500 | try again | 7 |"] := by
  have unbroken : barred.IsUnbroken := ⟨nofun, nofun, nofun, nofun, nofun⟩
  have staging : IsOneLine (ChannelStatus.failed "HTTP 500 | try again").text := by decide
  have production : IsOneLine ChannelStatus.cancelled.text := by decide
  obtain ⟨titles, channels, tasks⟩ := tables_iff (r := barred) rfl
  obtain ⟨channelTitle, taskTitle⟩ := titles unbroken
  refine ⟨rfl, unbroken, (channels channelTitle).mpr ⟨staging, production⟩, ?_⟩
  refine (tasks (taskTitle staging production)).mpr fun t there => ?_
  obtain rfl := List.mem_singleton.mp there
  exact staging

/-- The refusal of a file by staging, with an explanation of several lines. -/
def refusal : Outcome :=
  let body := "no |\n| production | succeeded |\n\nbye"
  (PublishError.uploadRejected .staging "a.zip" 400 (PackageIndex.explanation body)).toOutcome .staging

/-- The report of a run in which staging refused a file, and the credential for production had expired. -/
def refused : RunReport :=
  let expired := (PublishError.credentialExpired .production).toOutcome .production
  { RunReport.start .zero .epoch with
    verdict := some .pass
    decision := some .stagingAndProduction
    channels := ⟨some (.ofOutcome refusal), some (.ofOutcome expired)⟩
    tasks := [⟨.stagingPublish, .ofOutcome refusal, 7⟩, ⟨.productionPublish, .ofOutcome expired, 5⟩] }

theorem isUnbroken_refused : refused.IsUnbroken where
  context := nofun
  decision := by
    rintro d ⟨⟩
    decide
  error := nofun
  artifacts := nofun
  issues := by
    rintro v ⟨⟩
    nofun

theorem linesOf_refused : linesOf (concat channelRow refused.channels.entries) =
    ["| staging | failed: publish_error: publish to staging failed: staging rejected a.zip (HTTP 400): no |",
        "| production | succeeded |"] ++
      ["", "bye |", "| production | failed: publish_error: publish to production failed: production credential expired |"] := by
  decide +kernel

/-- The row that staging wrote stands for that of production, and neither table shows how the channels and the tasks ended. -/
theorem refused_rows :
    rowsUnder "## Channels" (linesOf refused.summary) =
        ["| staging | failed: publish_error: publish to staging failed: staging rejected a.zip (HTTP 400): no |",
          "| production | succeeded |"] ∧
      rowsUnder "## Channels" (linesOf refused.summary) ≠ refused.channels.entries.map channelLine ∧
      rowsUnder "## Tasks" (linesOf refused.summary) ≠ refused.tasks.map taskLine := by
  have broken : ¬IsOneLine (ChannelStatus.ofOutcome refusal).text := by decide +kernel
  have channels := (lacks_opening (.inl rfl) isUnbroken_refused).absent
  have tasks : "## Tasks" ∉ linesOf (refused.opening ++ refused.channelSection) := by
    rw [refused.isWhole_opening.linesOf_append, channelSection_eq, isWhole_channelHead.linesOf_append, linesOf_channelHead,
      linesOf_refused, List.mem_append, not_or]
    exact ⟨(lacks_opening (.inr rfl) isUnbroken_refused).absent, by decide⟩
  refine ⟨?_, fun rows => ?_, fun rows => ?_⟩
  · rw [summary_eq_channels, linesOf_table channelRow_eq _ refused.isWhole_opening isWhole_channelHead linesOf_channelHead,
      linesOf_refused, ← List.append_assoc, List.append_assoc]
    exact rowsUnder_section channels _ _ _ (by decide) fun line first => (Option.some.inj first).symm
  · exact broken ((rowsUnder_channels_iff channels).mp rows (.staging, .ofOutcome refusal) List.mem_cons_self)
  · exact broken ((rowsUnder_tasks_iff tasks).mp rows ⟨.stagingPublish, .ofOutcome refusal, 7⟩ List.mem_cons_self)

end RunReport

end ReleaseGate
