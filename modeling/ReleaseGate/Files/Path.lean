import ReleaseGate.Text.Lines

/-!
# Paths

A path is a text that names a file by the directories on the way to it. Joining and cutting paths works on the text alone and
keeps the spelling: a relative path after a directory is set off by one slash, and nothing is normalized.
-/

namespace ReleaseGate

/-- A path, as it is spelled. -/
structure Path where
  text : String
  deriving DecidableEq, Repr

namespace Path

instance : ToString Path := ⟨Path.text⟩

/-- Whether a path starts at the root. -/
def isAbsolute (p : Path) : Bool := p.text.toList.head? == some '/'

/-- A path that is read from the directory that another path names. -/
def join (dir rest : Path) : Path :=
  if rest.isAbsolute then rest
  else
    match dir.text.toList.getLast? with
    | none => rest
    | some '/' => ⟨dir.text ++ rest.text⟩
    | some _ => ⟨dir.text ++ "/" ++ rest.text⟩

/-- The path of an entry of a directory. -/
def entry (dir : Path) (name : String) : Path := dir.join ⟨name⟩

/-- The names on the way along a path. Empty names and the name of the same directory lead nowhere and are left out. -/
def steps (p : Path) : List String :=
  ((Text.fields '/' p.text.toList).filter fun name => !name.isEmpty && name != ['.']).map String.ofList

/-- The names from the root to what a path names, read from a directory, where no link stands on the way. -/
def namesFrom (cwd : List String) (p : Path) : List String :=
  p.steps.foldl (fun names name => if name == ".." then names.dropLast else names ++ [name]) (if p.isAbsolute then [] else cwd)

/-- Whether a path can only name a directory, because it ends in a slash or in the name of the same directory. -/
def namesDirectory (p : Path) : Bool :=
  match (Text.fields '/' p.text.toList).getLast? with
  | some last => last.isEmpty || last == ['.']
  | none => false

/-- The reversed text of a path without the slashes and the names of the same directory at its end; a leading name and the root
stay. -/
def dropIdleEnd : List Char → List Char
  | '.' :: '/' :: rest => if rest.isEmpty then ['/'] else dropIdleEnd ('/' :: rest)
  | '/' :: rest => if rest.isEmpty then ['/'] else dropIdleEnd rest
  | s => s
termination_by s => s.length

/-- The path of the directory that holds what a path names. The root and the empty path have none. -/
def parent? (p : Path) : Option Path :=
  let reversed := dropIdleEnd p.text.toList.reverse
  if reversed.isEmpty || reversed == ['/'] then none
  else some ⟨String.ofList (dropIdleEnd (reversed.dropWhile (· != '/'))).reverse⟩

/-! ## Paths of entries -/

/-- Whether a text is the name of an entry of a directory: not empty, none of the two names that lead nowhere and upwards, and
without a slash or a zero character. -/
structure IsName (name : String) : Prop where
  inhabited : name ≠ ""
  notHere : name ≠ "."
  notUp : name ≠ ".."
  noSlash : '/' ∉ name.toList
  noZero : '\x00' ∉ name.toList

instance (name : String) : Decidable (IsName name) :=
  decidable_of_iff (name ≠ "" ∧ name ≠ "." ∧ name ≠ ".." ∧ '/' ∉ name.toList ∧ '\x00' ∉ name.toList)
    ⟨fun ⟨inhabited, notHere, notUp, noSlash, noZero⟩ => ⟨inhabited, notHere, notUp, noSlash, noZero⟩,
      fun h => ⟨h.inhabited, h.notHere, h.notUp, h.noSlash, h.noZero⟩⟩

theorem IsName.isAbsolute {name : String} (h : IsName name) : isAbsolute ⟨name⟩ = false := by
  cases e : name.toList with
  | nil => simp [Path.isAbsolute, e]
  | cons c rest =>
    have first : c ≠ '/' := by
      rintro rfl
      exact h.noSlash (by simp [e])
    simp [Path.isAbsolute, e, first]

/-- The text of the path of an entry: that of the directory, a slash unless one is there, and the name. -/
theorem entry_text {dir : Path} {name : String} (named : IsName name) (something : dir.text ≠ "") :
    ∃ before, (dir.entry name).text.toList = before ++ '/' :: name.toList ∧
      (dir.text.toList = before ∨ dir.text.toList = before ++ ['/']) := by
  unfold entry join
  rw [named.isAbsolute]
  have filled : dir.text.toList ≠ [] := by simpa using something
  cases e : dir.text.toList.getLast? with
  | none => exact absurd (List.getLast?_eq_none_iff.mp e) filled
  | some c =>
    obtain ⟨before, whole⟩ := List.getLast?_eq_some_iff.mp e
    by_cases slash : c = '/'
    · subst slash
      exact ⟨before, by simp [whole], .inr whole⟩
    · exact ⟨dir.text.toList, by simp, .inl rfl⟩

/-- The fields of the path of an entry are those of the directory, one at its end that is empty aside, and the name. -/
theorem entry_fields {dir : Path} {name : String} (named : IsName name) (something : dir.text ≠ "") :
    ∃ before, Text.fields '/' (dir.entry name).text.toList = before ++ [name.toList] ∧
      (Text.fields '/' dir.text.toList = before ∨ Text.fields '/' dir.text.toList = before ++ [[]]) := by
  obtain ⟨text, whole, spelled⟩ := entry_text named something
  refine ⟨Text.fields '/' text, ?_, ?_⟩
  · rw [whole, Text.fields_append, Text.fields_eq_singleton named.noSlash]
  · rcases spelled with plain | slash
    · exact .inl (by rw [plain])
    · exact .inr (by rw [slash, Text.fields_append]; rfl)

theorem IsName.isStep {name : String} (h : IsName name) : (!name.toList.isEmpty && name.toList != ['.']) = true := by
  have dot : name.toList ≠ ['.'] := fun e => h.notHere (String.toList_inj.mp e)
  simpa [dot] using h.inhabited

/-- A name by itself is a way of one step. -/
theorem IsName.steps {name : String} (h : IsName name) : Path.steps ⟨name⟩ = [name] := by
  have kept : [name.toList].filter (fun name => !name.isEmpty && name != ['.']) = [name.toList] := List.filter_cons_of_pos h.isStep
  unfold Path.steps
  rw [Text.fields_eq_singleton h.noSlash, kept]
  simp

theorem IsName.namesDirectory {name : String} (h : IsName name) : Path.namesDirectory ⟨name⟩ = false := by
  have step := h.isStep
  unfold Path.namesDirectory
  rw [Text.fields_eq_singleton h.noSlash]
  simpa [bne] using step

/-- The way to an entry is the way to the directory, and then the name. -/
theorem steps_entry {dir : Path} {name : String} (named : IsName name) (something : dir.text ≠ "") :
    (dir.entry name).steps = dir.steps ++ [name] := by
  obtain ⟨before, whole, dirFields⟩ := entry_fields named something
  unfold steps
  rw [whole, List.filter_append, List.map_append]
  congr 1
  · rcases dirFields with e | e
    · rw [e]
    · simp [e]
  · have kept : [name.toList].filter (fun name => !name.isEmpty && name != ['.']) = [name.toList] :=
      List.filter_cons_of_pos named.isStep
    simp [kept]

theorem namesDirectory_entry {dir : Path} {name : String} (named : IsName name) (something : dir.text ≠ "") :
    (dir.entry name).namesDirectory = false := by
  obtain ⟨before, whole, -⟩ := entry_fields named something
  have step := named.isStep
  unfold namesDirectory
  rw [whole, List.getLast?_concat]
  simpa [bne] using step

theorem isAbsolute_entry {dir : Path} {name : String} (named : IsName name) (something : dir.text ≠ "") :
    (dir.entry name).isAbsolute = dir.isAbsolute := by
  obtain ⟨text, whole, spelled⟩ := entry_text named something
  have filled : dir.text.toList ≠ [] := by simpa using something
  unfold isAbsolute
  rw [whole]
  rcases spelled with plain | slash
  · obtain ⟨c, rest, e⟩ := List.exists_cons_of_ne_nil filled
    rw [← plain, e]
    rfl
  · rw [slash]
    cases text <;> rfl

/-! ## Paths of directories -/

/-- Whether a field of a path leads anywhere. -/
def leadsOn (name : List Char) : Bool := !name.isEmpty && name != ['.']

/-- The fields of the text of a path that lead anywhere. -/
def stepFields (s : List Char) : List (List Char) := (Text.fields '/' s).filter leadsOn

theorem steps_eq (p : Path) : p.steps = (stepFields p.text.toList).map String.ofList := rfl

theorem stepFields_append (s last : List Char) (noSlash : '/' ∉ last) :
    stepFields (s ++ '/' :: last) = stepFields s ++ if leadsOn last then [last] else [] := by
  unfold stepFields
  rw [Text.fields_append, Text.fields_eq_singleton noSlash, List.filter_append]
  cases e : leadsOn last <;> simp [e]

theorem stepFields_slash (s : List Char) : stepFields (s ++ ['/']) = stepFields s := by
  simpa [leadsOn] using stepFields_append s [] (by simp)

/-- Dropping what leads nowhere at the end of a text leaves its steps. -/
theorem stepFields_dropIdleEnd (r : List Char) : stepFields (dropIdleEnd r).reverse = stepFields r.reverse := by
  fun_induction dropIdleEnd r with
  | case1 rest empty =>
    obtain rfl := List.isEmpty_iff.mp empty
    decide
  | case2 rest _ ih =>
    rw [ih]
    simpa [leadsOn, stepFields_slash] using (stepFields_append rest.reverse ['.'] (by decide)).symm
  | case3 rest empty =>
    obtain rfl := List.isEmpty_iff.mp empty
    rfl
  | case4 rest _ ih =>
    rw [ih, List.reverse_cons, stepFields_slash]
  | case5 => rfl

/-- Dropping what leads nowhere at the end of a text leaves its start. -/
theorem getLast?_dropIdleEnd (r : List Char) : (dropIdleEnd r).getLast? = r.getLast? := by
  fun_induction dropIdleEnd r with
  | case1 rest empty =>
    obtain rfl := List.isEmpty_iff.mp empty
    rfl
  | case2 rest _ ih => rw [ih, List.getLast?_cons_cons]
  | case3 rest empty =>
    obtain rfl := List.isEmpty_iff.mp empty
    rfl
  | case4 rest filled ih =>
    obtain ⟨c, more, rfl⟩ := List.exists_cons_of_ne_nil (by simpa using filled)
    rw [ih, List.getLast?_cons_cons]
  | case5 => rfl

/-- What is left is the root, or ends in a name. -/
theorem dropIdleEnd_shape (r : List Char) :
    dropIdleEnd r = ['/'] ∨ (∀ rest, dropIdleEnd r ≠ '/' :: rest) ∧ ∀ rest, dropIdleEnd r ≠ '.' :: '/' :: rest := by
  fun_induction dropIdleEnd r with
  | case1 => exact .inl rfl
  | case2 _ _ ih => exact ih
  | case3 => exact .inl rfl
  | case4 _ _ ih => exact ih
  | case5 s noDot noSlash => exact .inr ⟨fun rest => noSlash rest, fun rest => noDot rest⟩

/-- A reversed text is its last name, without a slash, and what is before it. -/
theorem exists_lastName (r : List Char) :
    ∃ name, '/' ∉ name ∧ r = name ++ r.dropWhile (· != '/') ∧
      (r.dropWhile (· != '/') = [] ∨ ∃ more, r.dropWhile (· != '/') = '/' :: more) := by
  refine ⟨_, fun inside => ?_, List.takeWhile_append_dropWhile.symm, ?_⟩
  · simpa using List.all_eq_true.mp List.all_takeWhile _ inside
  · cases e : r.dropWhile (· != '/') with
    | nil => exact .inl rfl
    | cons c more =>
      have slash := List.head?_dropWhile_not (· != '/') r
      rw [e] at slash
      obtain rfl : c = '/' := by simpa using slash
      exact .inr ⟨more, rfl⟩

/-- The way to the directory that holds what a path names is the way there but for the last step. -/
theorem steps_parent? {p dir : Path} (h : p.parent? = some dir) :
    dir.steps = p.steps.dropLast ∧ dir.isAbsolute = p.isAbsolute := by
  have steps := stepFields_dropIdleEnd p.text.toList.reverse
  have start := getLast?_dropIdleEnd p.text.toList.reverse
  rw [List.reverse_reverse] at steps
  rw [List.getLast?_reverse] at start
  unfold parent? at h
  dsimp only at h
  split at h
  next => cases h
  next notRoot =>
    obtain rfl := Option.some.inj h
    have shape := (dropIdleEnd_shape p.text.toList.reverse).resolve_left fun root => notRoot (by simp [root])
    generalize dropIdleEnd p.text.toList.reverse = r at steps start notRoot shape
    obtain ⟨name, noSlash, whole, ends⟩ := exists_lastName r
    rw [steps_eq, steps_eq, isAbsolute, isAbsolute, String.toList_ofList, stepFields_dropIdleEnd, List.head?_reverse,
      getLast?_dropIdleEnd, ← steps, ← start]
    rcases ends with nothing | ⟨more, slash⟩
    · -- there is at most one name, and no directory before it
      rw [nothing, List.append_nil] at whole
      subst whole
      have one : stepFields r.reverse = if leadsOn r.reverse then [r.reverse] else [] := by
        unfold stepFields
        rw [Text.fields_eq_singleton (by simpa using noSlash)]
        cases e : leadsOn r.reverse <;> simp [e]
      have relative : r.getLast? ≠ some '/' := fun last => noSlash (List.mem_of_getLast? last)
      rw [one, nothing]
      constructor
      · cases leadsOn r.reverse <;> rfl
      · simpa using relative
    · rw [slash] at whole ⊢
      obtain ⟨noSlashFirst, noDotFirst⟩ := shape
      have leads : leadsOn name.reverse = true := by
        have some : name ≠ [] := by
          rintro rfl
          exact noSlashFirst more whole
        have noDot : name ≠ ['.'] := by
          rintro rfl
          exact noDotFirst more whole
        have reversed : name.reverse ≠ ['.'] := by simpa using noDot
        simp [leadsOn, some, reversed]
      have fields : stepFields r.reverse = stepFields more.reverse ++ [name.reverse] := by
        have spelled : r.reverse = more.reverse ++ '/' :: name.reverse := by simp [whole]
        rw [spelled, stepFields_append _ _ (by simpa using noSlash), if_pos leads]
      constructor
      · rw [fields, List.reverse_cons, stepFields_slash, List.map_append, List.map_singleton, List.dropLast_concat]
      · rw [whole, List.getLast?_append]
        simp [List.getLast?_cons]

end Path

end ReleaseGate
