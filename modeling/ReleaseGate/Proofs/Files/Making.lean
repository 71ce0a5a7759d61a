import ReleaseGate.Proofs.Files.Writing

/-!
# Directories that are made

Making a directory and those on the way to it only adds directories where nothing stood (`Made`), each at a place to which a start
of the path leads, and in the end the path leads to a directory. Where the path does not go upwards, that directory is new, unless
the path led to one before (`missing_of_made`).
-/

namespace ReleaseGate.FileSystem

variable {fs fs' : FileSystem} {cwd place q : Place} {path dir : Path} {name : String} {names more : List String}
  {links left left' depth : Nat}

/-! ## Ways -/

/-- Whether some names lead through directories to a place, from where a path starts. -/
def Leads (fs : FileSystem) (cwd : Place) (path : Path) (names : List String) (place : Place) : Prop :=
  ∃ left, Way fs maxLinks (if path.isAbsolute then [] else cwd) names left place

/-- A way along some names and more goes along these names first. -/
theorem Way.exists_mid (way : Way fs links place (names ++ more) left q) :
    ∃ mid between, Way fs links place names between mid ∧ Way fs between mid more left q := by
  generalize whole : names ++ more = all at way
  induction way generalizing names with
  | here links place =>
    obtain ⟨rfl, rfl⟩ := List.append_eq_nil_iff.mp whole
    exact ⟨place, links, .here links place, .here links place⟩
  | @up links left place q rest onward ih =>
    cases names with
    | nil =>
      obtain rfl : more = ".." :: rest := whole
      exact ⟨place, links, .here links place, .up onward⟩
    | cons name names =>
      obtain ⟨rfl, later⟩ := List.cons.inj whole
      obtain ⟨mid, between, first, second⟩ := ih later
      exact ⟨mid, between, .up first, second⟩
  | @down links left place q name rest notUp short there onward ih =>
    cases names with
    | nil =>
      obtain rfl : more = name :: rest := whole
      exact ⟨place, links, .here links place, .down notUp short there onward⟩
    | cons n names =>
      obtain ⟨rfl, later⟩ := List.cons.inj whole
      obtain ⟨mid, between, first, second⟩ := ih later
      exact ⟨mid, between, .down notUp short there first, second⟩
  | @across links left place q name rest target notUp short there onward ih =>
    cases names with
    | nil =>
      obtain rfl : more = name :: rest := whole
      exact ⟨place, links + 1, .here (links + 1) place, .across notUp short there onward⟩
    | cons n names =>
      obtain ⟨rfl, rfl⟩ := List.cons.inj whole
      obtain ⟨mid, between, first, second⟩ := ih (List.append_assoc target.steps names more)
      exact ⟨mid, between, .across notUp short there first, second⟩

/-- Where the same links stand, some names lead to one place at most. -/
theorem Way.unique (same : ∀ p target, fs'.node? p = some (.link target) ↔ fs.node? p = some (.link target)) {q' : Place}
    (way : Way fs links place names left q) (way' : Way fs' links place names left' q') : q' = q ∧ left' = left := by
  induction way with
  | here =>
    cases way' with
    | here => exact ⟨rfl, rfl⟩
  | up _ ih =>
    cases way' with
    | up onward => exact ih onward
    | down notUp => exact absurd rfl notUp
    | across notUp => exact absurd rfl notUp
  | down notUp short there _ ih =>
    cases way' with
    | up => exact absurd rfl notUp
    | down _ _ _ onward => exact ih onward
    | across _ _ link => cases ((same _ _).mp link).symm.trans there
  | across notUp short there _ ih =>
    cases way' with
    | up => exact absurd rfl notUp
    | down _ _ directory => cases ((same _ _).mpr there).symm.trans directory
    | across _ _ link onward =>
      obtain rfl := Node.link.inj (Option.some.inj (((same _ _).mp link).symm.trans there))
      exact ih onward

/-- A walk that ends takes a way to its last name, which may be one that is not followed. -/
theorem exists_way_of_walk_concat {follow : Bool} (walked : fs.walk follow links place (names ++ [name]) = .ok q) :
    ∃ mid between, Way fs links place names between mid ∧ fs.walk follow between mid [name] = .ok q := by
  generalize whole : names ++ [name] = all at walked
  induction links, place, all using walk.induct fs follow generalizing names with
  | case1 => simp at whole
  | case2 links place n rest up ih =>
    rcases List.append_eq_cons_iff.mp whole with ⟨rfl, same⟩ | ⟨names, rfl, rfl⟩
    · exact ⟨place, links, .here links place, same ▸ walked⟩
    · rw [walk, if_pos up] at walked
      obtain ⟨mid, between, way, last⟩ := ih rfl walked
      obtain rfl := eq_of_beq up
      exact ⟨mid, between, .up way, last⟩
  | case8 links place n rest notUp short there ih =>
    rcases List.append_eq_cons_iff.mp whole with ⟨rfl, same⟩ | ⟨names, rfl, rfl⟩
    · exact ⟨place, links, .here links place, same ▸ walked⟩
    · rw [walk, if_neg notUp, if_neg short, there] at walked
      obtain ⟨mid, between, way, last⟩ := ih rfl walked
      exact ⟨mid, between, .down (by simpa using notUp) (Nat.le_of_not_lt short) there way, last⟩
  | case11 place n rest notUp short target there followed links ih =>
    rcases List.append_eq_cons_iff.mp whole with ⟨rfl, same⟩ | ⟨names, rfl, rfl⟩
    · exact ⟨place, links + 1, .here (links + 1) place, same ▸ walked⟩
    · rw [walk, if_neg notUp, if_neg short, there] at walked
      simp only [if_neg followed] at walked
      obtain ⟨mid, between, way, last⟩ := ih (List.append_assoc ..) walked
      exact ⟨mid, between, .across (by simpa using notUp) (Nat.le_of_not_lt short) there way, last⟩
  -- the walk ends here, so this name is the last one
  | _ links place n rest =>
    rcases List.append_eq_cons_iff.mp whole with ⟨rfl, same⟩ | ⟨names, rfl, rfl⟩
    · exact ⟨_, _, .here _ _, same ▸ walked⟩
    · have more : (names ++ [name]).isEmpty = false := by simp
      rw [walk] at walked
      grind

/-- A last name that is not followed is an entry of the place where it is read. -/
theorem eq_of_walk_last (notUp : name ≠ "..") (walked : fs.walk false links place [name] = .ok q) : q = place ++ [name] := by
  rw [FileSystem.walk, if_neg (by simpa using notUp)] at walked
  split at walked
  next => cases walked
  next =>
    split at walked
    next => simpa [eq_comm] using walked
    next => simpa [eq_comm] using walked
    next => simpa [FileSystem.walk, eq_comm] using walked
    next => simpa [eq_comm] using walked

/-- Where a walk ends at a place where nothing stands, a way leads to the directory that is made there. -/
theorem exists_way_put {follow : Bool} (walked : fs.walk follow links place names = .ok q) (missing : fs.node? q = none) :
    ∃ left, Way (fs.put q .directory) links place names left q := by
  have below : q ≠ [] := IsLeaf.below (.inl missing)
  have kept : ∀ p node, fs.node? p = some node → (fs.put q .directory).node? p = some node := by
    intro p node there
    rw [node?_put _ below, if_neg]
    · exact there
    · rintro rfl
      cases missing.symm.trans there
  fun_induction walk fs follow links place names with
  | case1 links place =>
    obtain rfl := Except.ok.inj walked
    exact ⟨links, .here links place⟩
  | case2 links place name rest up ih =>
    obtain ⟨left, way⟩ := ih walked
    obtain rfl := eq_of_beq up
    exact ⟨left, .up way⟩
  | case4 links place name rest notUp short _ last =>
    obtain rfl := Except.ok.inj walked
    have made : (fs.put (place ++ [name]) .directory).node? (place ++ [name]) = some .directory := by
      rw [node?_put _ below, if_pos rfl]
    obtain rfl := List.isEmpty_iff.mp last
    exact ⟨links, .down (by simpa using notUp) (Nat.le_of_not_lt short) made (.here ..)⟩
  | case8 links place name rest notUp short there ih =>
    obtain ⟨left, way⟩ := ih walked
    exact ⟨left, .down (by simpa using notUp) (Nat.le_of_not_lt short) (kept _ _ there) way⟩
  | case11 place name rest notUp short target there _ links ih =>
    obtain ⟨left, way⟩ := ih walked
    exact ⟨left, .across (by simpa using notUp) (Nat.le_of_not_lt short) (kept _ _ there) way⟩
  -- the walk ends at something that stands there, or does not end
  | _ => simp_all

theorem Way.walk_noFollow (way : Way fs links place names left q) :
    ∃ p, fs.walk false links place names = .ok p ∧ (p = q ∨ ∃ target, fs.node? p = some (.link target)) := by
  induction way with
  | here links place => exact ⟨place, by rw [FileSystem.walk], .inl rfl⟩
  | up _ ih =>
    rw [FileSystem.walk, if_pos (beq_self_eq_true "..")]
    exact ih
  | down notUp short there _ ih =>
    rw [FileSystem.walk, if_neg (by simpa using notUp), if_neg (Nat.not_lt.mpr short), there]
    exact ih
  | @across links left place q name rest target notUp short there _ ih =>
    rw [FileSystem.walk, if_neg (by simpa using notUp), if_neg (Nat.not_lt.mpr short), there]
    cases rest with
    | nil => exact ⟨place ++ [name], by simp, .inr ⟨target, there⟩⟩
    | cons n rest => simpa using ih

/-- Where a path leads to a directory, it resolves to it, or to a link when a link at its end is not followed. -/
theorem LeadsTo.exists_resolve (h : LeadsTo fs cwd dir place) :
    ∃ p, fs.resolve cwd dir false = .ok p ∧ (p = place ∨ ∃ target, fs.node? p = some (.link target)) := by
  obtain ⟨left, way⟩ := h.way
  have walked : ∃ p, fs.walk (false || dir.namesDirectory) maxLinks (if dir.isAbsolute then [] else cwd) dir.steps = .ok p ∧
      (p = place ∨ dir.namesDirectory = false ∧ ∃ target, fs.node? p = some (.link target)) := by
    cases directory : dir.namesDirectory with
    | true =>
      have onward : fs.walk true maxLinks (if dir.isAbsolute then [] else cwd) (dir.steps ++ []) = fs.walk true left place [] :=
        way.walk fun _ => rfl
      rw [List.append_nil, FileSystem.walk] at onward
      exact ⟨place, onward, .inl rfl⟩
    | false =>
      obtain ⟨p, walked, ends⟩ := way.walk_noFollow
      exact ⟨p, walked, ends.imp_right fun link => ⟨rfl, link⟩⟩
  obtain ⟨p, walked, ends⟩ := walked
  refine ⟨p, resolve_eq_ok_iff.mpr ⟨⟨h.inhabited, h.noZero, h.short⟩, walked, fun names bytes readable => ?_⟩,
    ends.imp_right And.right⟩
  rcases ends with rfl | ⟨noNames, -⟩
  · simp [h.directory]
  · cases names.symm.trans noNames

/-! ## One directory -/

/-- A directory that is made stands where nothing stood, and the path leads to it. -/
theorem exists_of_makeDirectory (made : fs.makeDirectory cwd path = .ok fs') :
    ∃ place, fs.node? place = none ∧ fs' = fs.put place .directory ∧ LeadsTo fs' cwd path place := by
  obtain ⟨place, resolved, made⟩ := bind_eq_ok_iff.mp made
  split at made
  next => cases made
  next missing =>
    split at made
    next =>
      obtain rfl := Except.ok.inj made
      obtain ⟨⟨inhabited, noZero, short⟩, walked, -⟩ := resolve_eq_ok_iff.mp resolved
      have below : place ≠ [] := IsLeaf.below (.inl missing)
      have directory : (fs.put place .directory).node? place = some .directory := by rw [node?_put _ below, if_pos rfl]
      exact ⟨place, missing, rfl, inhabited, noZero, short, exists_way_put walked missing, directory⟩
    next => cases made

/-! ## A directory and those on the way to it -/

/-- What a file system is after directories were made for a path: directories were added where nothing stood, at places to which a
start of the path leads, and where all went well, the path leads to a directory. The path itself was made only then. -/
structure Made (fs : FileSystem) (cwd : Place) (path : Path) (result : Except OsError Unit) (fs' : FileSystem) : Prop where
  added : ∀ p, fs'.node? p = fs.node? p ∨ fs.node? p = none ∧ fs'.node? p = some .directory ∧
    ∃ names, names <+: path.steps ∧ (result = .ok () ∨ names <+: path.steps.dropLast) ∧ Leads fs' cwd path names p
  leads : result = .ok () → path.text ≠ "" → ∃ place, LeadsTo fs' cwd path place

variable {result : Except OsError Unit}

theorem Made.unchanged (leads : result = .ok () → path.text ≠ "" → ∃ place, LeadsTo fs cwd path place) : Made fs cwd path result fs :=
  ⟨fun _ => .inl rfl, leads⟩

/-- What stood stands. -/
theorem Made.kept (made : Made fs cwd path result fs') {p : Place} {node : Node} (there : fs.node? p = some node) :
    fs'.node? p = some node := by
  rcases made.added p with same | ⟨missing, -⟩
  · exact same.trans there
  · cases missing.symm.trans there

theorem isDirectory_iff : fs.isDirectory cwd path = true ↔ ∃ place, LeadsTo fs cwd path place := by
  unfold isDirectory
  constructor
  · intro directory
    split at directory
    next place found => exact ⟨place, find_eq_directory_iff.mp found⟩
    next => cases directory
  · rintro ⟨place, leads⟩
    rw [find_eq_directory_iff.mpr leads]

/-- A directory may be there already when it cannot be made. -/
theorem Made.of_isDirectory (e : OsError) : Made fs cwd path (if fs.isDirectory cwd path then .ok () else .error e) fs := by
  refine .unchanged fun done _ => ?_
  split at done
  next directory => exact isDirectory_iff.mp directory
  next => cases done

theorem made_of_makeDirectory (made : fs.makeDirectory cwd path = .ok fs') : Made fs cwd path (.ok ()) fs' := by
  obtain ⟨place, missing, rfl, leads⟩ := exists_of_makeDirectory made
  have below : place ≠ [] := IsLeaf.below (.inl missing)
  refine ⟨fun p => ?_, fun _ _ => ⟨place, leads⟩⟩
  rw [node?_put _ below]
  split
  next here =>
    subst here
    exact .inr ⟨missing, rfl, path.steps, List.prefix_refl _, .inl rfl, leads.way⟩
  next => exact .inl rfl

/-- What is made for the directory that holds a path is made for the path. -/
theorem Made.of_parent (parent : path.parent? = some dir) (made : Made fs cwd dir result fs') {result' : Except OsError Unit}
    (leads : result' = .ok () → path.text ≠ "" → ∃ place, LeadsTo fs' cwd path place) : Made fs cwd path result' fs' := by
  obtain ⟨steps, start⟩ := Path.steps_parent? parent
  refine ⟨fun p => ?_, leads⟩
  rcases made.added p with same | ⟨missing, directory, names, front, -, left, way⟩
  · exact .inl same
  · rw [start] at way
    rw [steps] at front
    exact .inr ⟨missing, directory, names, front.trans (List.dropLast_prefix _), .inr front, left, way⟩

theorem Made.trans {fs₁ : FileSystem} (first : Made fs cwd path result fs₁) {result' : Except OsError Unit}
    (done : result' = .ok ()) (second : Made fs₁ cwd path result' fs') : Made fs cwd path result' fs' := by
  refine ⟨fun p => ?_, second.leads⟩
  rcases second.added p with same | ⟨missing, directory, onWay⟩
  · rcases first.added p with same' | ⟨missing, directory, names, front, -, left, way⟩
    · exact .inl (same.trans same')
    · exact .inr ⟨missing, same.trans directory, names, front, .inl done, left, way.mono fun _ _ _ => second.kept⟩
  · refine .inr ⟨?_, directory, onWay⟩
    cases before : fs.node? p with
    | none => rfl
    | some node => cases missing.symm.trans (first.kept before)

/-- Making a directory and those on the way to it only adds directories on the way. -/
theorem made_of_makeDirectoriesUpTo (made : fs.makeDirectoriesUpTo cwd path depth = (result, fs')) : Made fs cwd path result fs' := by
  induction depth generalizing path result fs' with
  | zero =>
    obtain ⟨rfl, rfl⟩ := Prod.mk.inj made
    exact .unchanged nofun
  | succ depth ih =>
    rw [makeDirectoriesUpTo] at made
    split at made
    next empty =>
      obtain ⟨rfl, rfl⟩ := Prod.mk.inj made
      exact .unchanged fun _ some => absurd (String.isEmpty_iff.mp empty) some
    next =>
      split at made
      next fs₁ one =>
        obtain ⟨rfl, rfl⟩ := Prod.mk.inj made
        exact made_of_makeDirectory one
      next =>
        split at made
        next =>
          obtain ⟨rfl, rfl⟩ := Prod.mk.inj made
          exact .unchanged nofun
        next dir parent =>
          split at made
          next e left before =>
            obtain ⟨rfl, rfl⟩ := Prod.mk.inj made
            exact (ih before).of_parent parent nofun
          next fs₁ before =>
            split at made
            next fs₂ one =>
              obtain ⟨rfl, rfl⟩ := Prod.mk.inj made
              have onWay : Made fs cwd path (.error .notFound) fs₁ := (ih before).of_parent parent nofun
              exact onWay.trans rfl (made_of_makeDirectory one)
            next e _ =>
              obtain ⟨rfl, rfl⟩ := Prod.mk.inj made
              exact (ih before).of_parent parent (Made.of_isDirectory e).leads
      next e _ _ =>
        obtain ⟨rfl, rfl⟩ := Prod.mk.inj made
        exact .of_isDirectory e

/-! ## New directories -/

/-- Nothing is made for a path that leads to a directory. -/
theorem LeadsTo.makeDirectory_eq_error (h : LeadsTo fs cwd path place) : fs.makeDirectory cwd path = .error .alreadyExists := by
  obtain ⟨p, resolved, ends⟩ := h.exists_resolve
  unfold FileSystem.makeDirectory
  rw [resolved]
  rcases ends with rfl | ⟨target, link⟩
  · simp [Except.bind, h.directory]
  · simp [Except.bind, link]

theorem LeadsTo.eq_of_makeDirectoriesUpTo (h : LeadsTo fs cwd path place)
    (made : fs.makeDirectoriesUpTo cwd path depth = (result, fs')) : fs' = fs := by
  cases depth with
  | zero => exact (Prod.mk.inj made).2.symm
  | succ depth =>
    rw [makeDirectoriesUpTo, if_neg (by simpa using h.inhabited), h.makeDirectory_eq_error] at made
    exact (Prod.mk.inj made).2.symm

/-- Where a path leads to a directory once the one before it is made, nothing more is made. -/
theorem makeDirectoriesUpTo_of_parent (failed : fs.makeDirectory cwd path = .error .notFound) (parent : path.parent? = some dir)
    (before : fs.makeDirectoriesUpTo cwd dir depth = (.ok (), fs')) (leads : LeadsTo fs' cwd path place) :
    fs.makeDirectoriesUpTo cwd path (depth + 1) = (.ok (), fs') := by
  rw [makeDirectoriesUpTo, if_neg (by simpa using leads.inhabited), failed]
  simp only [parent, before, leads.makeDirectory_eq_error]
  rw [if_pos (isDirectory_iff.mpr ⟨place, leads⟩)]

/-- In a tree, nothing stands below a place where nothing stands. -/
theorem IsTree.missing_below (tree : IsTree fs) (missing : fs.node? place = none) (name : String) :
    fs.node? (place ++ [name]) = none := by
  cases e : fs.node? (place ++ [name]) with
  | none => rfl
  | some node => cases missing.symm.trans (tree place name node e)

/-- In a tree, what stands below a place stands in a directory. -/
theorem IsTree.directory_above (tree : IsTree fs) (below : more ≠ []) {node : Node} (there : fs.node? (place ++ more) = some node) :
    fs.node? place = some .directory := by
  induction more generalizing place with
  | nil => exact absurd rfl below
  | cons name rest ih =>
    rw [List.append_cons] at there
    by_cases last : rest = []
    · rw [last, List.append_nil] at there
      exact tree place name node there
    · exact tree place name .directory (ih last there)

/-- A way that stays in place but for one last name ends at what stands under that name. -/
theorem Way.last (way : Way fs links place [name] left q) (notUp : name ≠ "..") :
    (q = place ++ [name] ∧ fs.node? (place ++ [name]) = some .directory) ∨
      ∃ target, fs.node? (place ++ [name]) = some (.link target) := by
  cases way with
  | up => exact absurd rfl notUp
  | down _ _ there onward =>
    cases onward with
    | here => exact .inl ⟨rfl, there⟩
  | across _ _ there => exact .inr ⟨_, there⟩

theorem eq_of_makeDirectoriesUpTo_empty (empty : path.text = "") (made : fs.makeDirectoriesUpTo cwd path depth = (result, fs')) :
    fs' = fs := by
  cases depth with
  | zero => exact (Prod.mk.inj made).2.symm
  | succ depth =>
    rw [makeDirectoriesUpTo, if_pos (by simp [empty])] at made
    exact (Prod.mk.inj made).2.symm

/-- Where nothing stands in the end, nothing stood before. -/
theorem Made.missing (made : Made fs cwd path result fs') {p : Place} (missing : fs'.node? p = none) : fs.node? p = none := by
  cases before : fs.node? p with
  | none => rfl
  | some node => cases missing.symm.trans (made.kept before)

/-- A path that goes on from a new directory, and not upwards, leads to a new directory, or to this one. -/
theorem Made.missing_of_leadsTo (tree : IsTree fs) (made : Made fs cwd dir result fs') (steps : dir.steps = path.steps.dropLast)
    (start : dir.isAbsolute = path.isAbsolute) (noUp : ".." ∉ path.steps) (leadsToDir : LeadsTo fs' cwd dir q)
    (missing : fs.node? q = none) (leads : LeadsTo fs' cwd path place) : fs.node? place = none := by
  obtain ⟨between, toDir⟩ := leadsToDir.way
  obtain ⟨left, way⟩ := leads.way
  rw [steps, start] at toDir
  rcases List.eq_nil_or_concat path.steps with none | ⟨init, name, whole⟩
  · rw [none] at way toDir
    obtain ⟨rfl, -⟩ := way.unique (fun _ _ => Iff.rfl) toDir
    exact missing
  · rw [List.concat_eq_append] at whole
    rw [whole, List.dropLast_concat] at toDir
    rw [whole] at way noUp
    obtain ⟨mid, _, first, last⟩ := way.exists_mid
    obtain ⟨rfl, -⟩ := first.unique (fun _ _ => Iff.rfl) toDir
    have noneBelow := tree.missing_below missing name
    have notUp : name ≠ ".." := by
      rintro rfl
      exact noUp (by simp)
    rcases last.last notUp with ⟨rfl, -⟩ | ⟨target, link⟩
    · exact noneBelow
    · rcases made.added (q ++ [name]) with same | ⟨-, directory, -⟩
      · cases (same.trans noneBelow).symm.trans link
      · cases directory.symm.trans link

/-- A path that does not go upwards and led to no directory leads to a new one when it is made. -/
theorem missing_of_made (tree : IsTree fs) (noUp : ".." ∉ path.steps) (absent : ∀ q, ¬LeadsTo fs cwd path q)
    (made : fs.makeDirectoriesUpTo cwd path depth = (.ok (), fs')) (leads : LeadsTo fs' cwd path place) :
    fs.node? place = none := by
  induction depth generalizing path fs' place with
  | zero => cases made
  | succ depth ih =>
    rw [makeDirectoriesUpTo, if_neg (by simpa using leads.inhabited)] at made
    split at made
    next fs₁ one =>
      obtain ⟨-, rfl⟩ := Prod.mk.inj made
      obtain ⟨new, missing, rfl, leadsNew⟩ := exists_of_makeDirectory one
      exact leads.unique leadsNew ▸ missing
    next failed =>
      split at made
      next => cases made
      next dir parent =>
        obtain ⟨steps, start⟩ := Path.steps_parent? parent
        split at made
        next => cases made
        next fs₁ before =>
          by_cases known : dir.text = "" ∨ ∃ q, LeadsTo fs cwd dir q
          · -- nothing was made on the way, so the path fails again
            have same : fs₁ = fs := by
              rcases known with empty | ⟨q, there⟩
              · exact eq_of_makeDirectoriesUpTo_empty empty before
              · exact there.eq_of_makeDirectoriesUpTo before
            rw [same, failed] at made
            obtain ⟨-, rfl⟩ := Prod.mk.inj made
            exact absurd leads (absent place)
          · obtain ⟨filled, missing⟩ := not_or.mp known
            have onWay := made_of_makeDirectoriesUpTo before
            obtain ⟨q, leadsToDir⟩ := onWay.leads rfl filled
            have noUpBefore : ".." ∉ dir.steps := fun up => noUp ((List.dropLast_sublist _).subset (steps ▸ up))
            have missingDir : fs.node? q = none := ih noUpBefore (fun r there => missing ⟨r, there⟩) before leadsToDir
            split at made
            next fs₂ one =>
              obtain ⟨-, rfl⟩ := Prod.mk.inj made
              obtain ⟨new, missingNew, rfl, leadsNew⟩ := exists_of_makeDirectory one
              obtain rfl := leads.unique leadsNew
              exact onWay.missing missingNew
            next =>
              obtain ⟨-, rfl⟩ := Prod.mk.inj made
              exact onWay.missing_of_leadsTo tree steps start noUp leadsToDir missingDir leads
    next e _ _ =>
      obtain ⟨done, rfl⟩ := Prod.mk.inj made
      exact absurd leads (absent place)

end ReleaseGate.FileSystem
