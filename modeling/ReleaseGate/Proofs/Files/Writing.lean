import ReleaseGate.Proofs.Files.Directory

/-!
# What is written to a file is read from it

In a file system where every entry stands in a directory (`IsTree`), a path that is read from a directory leads to a directory, or
to an entry of one that is a file or not there (`exists_entry_of_walk`). Writing to the file changes nothing on the way to it, so
the path leads to the file afterwards, and its bytes are those that were written (`readBytes_of_writeBytes`).
-/

namespace ReleaseGate.FileSystem

variable {fs fs' : FileSystem} {cwd place q : Place} {path dir : Path} {name : String} {bytes : List UInt8} {names : List String} {links : Nat}

/-- Whether every entry stands in a directory. -/
def IsTree (fs : FileSystem) : Prop := ∀ dir name node, fs.node? (dir ++ [name]) = some node → fs.node? dir = some .directory

theorem IsTree.dropLast (tree : IsTree fs) (directory : fs.node? place = some .directory) :
    fs.node? place.dropLast = some .directory := by
  rcases List.eq_nil_or_concat place with rfl | ⟨dir, name, rfl⟩
  · rfl
  · rw [List.concat_eq_append] at directory ⊢
    rw [List.dropLast_concat]
    exact tree dir name _ directory

/-- A walk through a tree ends at a directory, or at an entry of one that is a file or not there. -/
theorem exists_entry_of_walk (tree : IsTree fs) (start : fs.node? place = some .directory)
    (walked : fs.walk true links place names = .ok q) :
    fs.node? q = some .directory ∨ IsLeaf fs q ∧ ∃ dir name, q = dir ++ [name] ∧ fs.node? dir = some .directory := by
  fun_induction walk fs true links place names with
  | case1 links place => exact .inl (Except.ok.inj walked ▸ start)
  | case2 links place name rest up ih => exact ih (tree.dropLast start) walked
  | case4 links place name rest notUp short missing last =>
    exact .inr ⟨.inl (Except.ok.inj walked ▸ missing), place, name, (Except.ok.inj walked).symm, start⟩
  | case6 links place name rest notUp short bytes readable there last =>
    exact .inr ⟨.inr ⟨bytes, readable, Except.ok.inj walked ▸ there⟩, place, name, (Except.ok.inj walked).symm, start⟩
  | case8 links place name rest notUp short there ih => exact ih there walked
  | case11 place name rest notUp short target there follows links ih =>
    refine ih ?_ walked
    split
    · rfl
    · exact start
  | _ => simp_all

theorem IsLeaf.below (leaf : IsLeaf fs q) : q ≠ [] := by
  rintro rfl
  rcases leaf with missing | ⟨bytes, readable, there⟩
  · cases missing
  · cases there

/-- What stands elsewhere than at a leaf is there when a file is put in its place. -/
theorem IsLeaf.node?_put (leaf : IsLeaf fs q) {p : Place} {node : Node} (bytes : List UInt8) (readable : Bool)
    (there : fs.node? p = some node) (noFile : ∀ bytes readable, node ≠ .file bytes readable) :
    (fs.put q (.file bytes readable)).node? p = some node := by
  rw [FileSystem.node?_put _ leaf.below, if_neg]
  · exact there
  · rintro rfl
    rcases leaf with missing | ⟨old, mode, file⟩
    · rw [missing] at there
      cases there
    · exact noFile old mode (Option.some.inj (there.symm.trans file))

/-- A file that is put where a walk ends does not change the walk: it only ever asked for that place at its end. -/
theorem walk_put (leaf : IsLeaf fs q) (walked : fs.walk true links place names = .ok q) (bytes : List UInt8) (readable : Bool) :
    (fs.put q (.file bytes readable)).walk true links place names = .ok q := by
  have atEnd := FileSystem.node?_put fs leaf.below q (.file bytes readable)
  rw [if_pos rfl] at atEnd
  fun_induction walk fs true links place names with
  | case1 links place =>
    rw [FileSystem.walk]
    exact walked
  | case2 links place name rest up ih =>
    rw [FileSystem.walk, if_pos up]
    exact ih walked
  | case4 links place name rest notUp short missing last =>
    obtain rfl := Except.ok.inj walked
    rw [FileSystem.walk, if_neg notUp, if_neg short, atEnd]
    exact if_pos last
  | case6 links place name rest notUp short old mode there last =>
    obtain rfl := Except.ok.inj walked
    rw [FileSystem.walk, if_neg notUp, if_neg short, atEnd]
    exact if_pos last
  | case8 links place name rest notUp short there ih =>
    rw [FileSystem.walk, if_neg notUp, if_neg short, leaf.node?_put bytes readable there fun _ _ => Node.noConfusion]
    exact ih walked
  | case11 place name rest notUp short target there follows links ih =>
    rw [FileSystem.walk, if_neg notUp, if_neg short, leaf.node?_put bytes readable there fun _ _ => Node.noConfusion]
    simp only [if_neg follows]
    exact ih walked
  | _ => simp_all

/-- A path that leads to a leaf leads to the file that is put there. -/
theorem find_put (leaf : IsLeaf fs q) (resolved : fs.resolve cwd path true = .ok q) (noDirectory : path.namesDirectory = false)
    (bytes : List UInt8) (readable : Bool) :
    (fs.put q (.file bytes readable)).find cwd path = .ok (q, .file bytes readable) := by
  obtain ⟨limits, walked, -⟩ := resolve_eq_ok_iff.mp resolved
  rw [Bool.true_or] at walked
  have there := FileSystem.node?_put fs leaf.below q (.file bytes readable)
  rw [if_pos rfl] at there
  have resolved' : (fs.put q (.file bytes readable)).resolve cwd path true = .ok q :=
    resolve_eq_ok_iff.mpr ⟨limits, by rw [Bool.true_or]; exact walk_put leaf walked bytes readable, by simp [noDirectory]⟩
  unfold find
  rw [resolved']
  simp [Except.bind, there]

/-- Where a path leads in a tree when it is written to: to an entry of a directory. The path leads to it afterwards, with the bytes
that were written; they can be read, unless a file was there that cannot. -/
theorem exists_entry_of_writeBytes (tree : IsTree fs) (inside : fs.node? cwd = some .directory)
    (wrote : fs.writeBytes cwd path bytes = .ok fs') :
    ∃ dir name readable, fs.node? dir = some .directory ∧ IsLeaf fs (dir ++ [name]) ∧
      fs' = fs.put (dir ++ [name]) (.file bytes readable) ∧ fs'.find cwd path = .ok (dir ++ [name], .file bytes readable) ∧
      (readable = true ∨ fs.readBytes cwd path = .error .permissionDenied) := by
  obtain ⟨place, resolved, wrote⟩ := bind_eq_ok_iff.mp wrote
  obtain ⟨-, walked, noFile⟩ := resolve_eq_ok_iff.mp resolved
  rw [Bool.true_or] at walked
  have start : fs.node? (if path.isAbsolute then [] else cwd) = some .directory := by
    split
    · rfl
    · exact inside
  rcases exists_entry_of_walk tree start walked with directory | ⟨leaf, dir, name, rfl, holder⟩
  · rw [directory] at wrote
    cases wrote
  have put_finds := find_put leaf resolved
  rcases leaf with missing | ⟨old, mode, there⟩
  · simp only [missing] at wrote
    split at wrote
    next => cases wrote
    next noDirectory =>
      obtain rfl := Except.ok.inj wrote
      exact ⟨dir, name, true, holder, .inl missing, rfl, put_finds (by simpa using noDirectory) bytes true, .inl rfl⟩
  · simp only [there] at wrote
    obtain rfl := Except.ok.inj wrote
    have noDirectory : path.namesDirectory = false := by
      apply Bool.eq_false_iff.mpr
      intro names
      exact noFile names old mode there
    refine ⟨dir, name, mode, holder, .inr ⟨old, mode, there⟩, rfl, put_finds noDirectory bytes mode, ?_⟩
    cases mode with
    | true => exact .inl rfl
    | false => exact .inr (by simp [readBytes, find, resolved, Except.bind, there])

/-- What is written by the path of an entry that is no link is the file of that name in the directory, old or new. -/
theorem LeadsTo.exists_of_writeBytes (h : LeadsTo fs cwd dir place) (named : Path.IsName name)
    (noLink : ∀ target, fs.node? (place ++ [name]) ≠ some (.link target))
    (wrote : fs.writeBytes cwd (dir.entry name) bytes = .ok fs') :
    Fits dir name ∧ IsLeaf fs (place ++ [name]) ∧ ∃ readable, fs' = fs.put (place ++ [name]) (.file bytes readable) := by
  obtain ⟨p, resolved, wrote⟩ := bind_eq_ok_iff.mp wrote
  obtain ⟨short, left, walked⟩ := h.of_resolve_entry named resolved
  have leaf : IsLeaf fs (place ++ [name]) := by
    cases there : fs.node? (place ++ [name]) with
    | none => exact .inl there
    | some node =>
      cases node with
      | file old readable => exact .inr ⟨old, readable, there⟩
      | link target => exact absurd there (noLink target)
      | directory =>
        rw [FileSystem.walk, if_neg (by simpa using named.notUp), if_neg (Nat.not_lt.mpr short.shortName), there] at walked
        obtain rfl : place ++ [name] = p := by simpa [FileSystem.walk] using walked
        rw [there] at wrote
        cases wrote
  rw [walk_leaf true left named.notUp short.shortName leaf] at walked
  obtain rfl := Except.ok.inj walked
  refine ⟨⟨named, short⟩, leaf, ?_⟩
  rw [Path.namesDirectory_entry named h.inhabited] at wrote
  rcases leaf with missing | ⟨old, readable, there⟩
  · exact ⟨true, by simpa [missing, eq_comm] using wrote⟩
  · exact ⟨readable, by simpa [there, eq_comm] using wrote⟩

/-- A file in a directory is found by the path of its entry. -/
theorem LeadsTo.find_file (h : LeadsTo fs cwd dir place) (fits : Fits dir name) {readable : Bool}
    (there : fs.node? (place ++ [name]) = some (.file bytes readable)) :
    fs.find cwd (dir.entry name) = .ok (place ++ [name], .file bytes readable) := by
  unfold find
  rw [h.resolve_entry fits (.inr ⟨bytes, readable, there⟩)]
  simp [Except.bind, there]

theorem LeadsTo.put_file (h : LeadsTo fs cwd dir place) (leaf : IsLeaf fs q) (bytes : List UInt8) (readable : Bool) :
    LeadsTo (fs.put q (.file bytes readable)) cwd dir place :=
  h.mono fun _ _ noFile there => leaf.node?_put bytes readable there noFile

/-- Writing to a file leaves a tree. -/
theorem IsTree.writeBytes (tree : IsTree fs) (inside : fs.node? cwd = some .directory)
    (wrote : fs.writeBytes cwd path bytes = .ok fs') : IsTree fs' := by
  obtain ⟨dir, name, readable, holder, leaf, rfl, -, -⟩ := exists_entry_of_writeBytes tree inside wrote
  have kept : ∀ p, fs.node? p = some .directory → (fs.put (dir ++ [name]) (.file bytes readable)).node? p = some .directory :=
    fun p directory => leaf.node?_put bytes readable directory nofun
  intro p entry node there
  rw [FileSystem.node?_put _ leaf.below] at there
  split at there
  next same =>
    obtain ⟨rfl, -⟩ := List.append_inj' same rfl
    exact kept _ holder
  next => exact kept _ (tree p entry node there)

/-- What is written to a file is read from it, unless a file was there that cannot be read. -/
theorem readBytes_of_writeBytes (tree : IsTree fs) (inside : fs.node? cwd = some .directory)
    (wrote : fs.writeBytes cwd path bytes = .ok fs') (permitted : fs.readBytes cwd path ≠ .error .permissionDenied) :
    fs'.isFile cwd path = true ∧ fs'.readBytes cwd path = .ok bytes := by
  obtain ⟨dir, name, readable, -, -, -, found, mode⟩ := exists_entry_of_writeBytes tree inside wrote
  obtain rfl : readable = true := mode.resolve_right permitted
  exact ⟨by simp [isFile, found], by simp [readBytes, found, Except.bind]⟩

/-- What stands at a place below the root is listed. -/
theorem mem_nodes_of_node? {node : Node} (below : place ≠ []) (there : fs.node? place = some node) : (place, node) ∈ fs.nodes := by
  rw [node?_of_ne_root _ below] at there
  obtain ⟨before, after, whole, -⟩ := List.lookup_eq_some_iff.mp there
  simp [whole]

theorem isTree_of_forall (h : ∀ stands ∈ fs.nodes, fs.node? stands.1.dropLast = some .directory) : IsTree fs := by
  intro dir name node there
  have above := h _ (mem_nodes_of_node? (by simp) there)
  rwa [List.dropLast_concat] at above

/-- A file system of one directory and those on the way to it is a tree. -/
theorem isTree_ofRoot (root : Place) : IsTree (ofRoot root) := by
  have stands : ∀ i < root.length, (ofRoot root).node? (root.take (i + 1)) = some .directory := by
    intro i hi
    have below : root.take (i + 1) ≠ [] := by simpa using List.ne_nil_of_length_pos (Nat.zero_lt_of_lt hi)
    have inside : (root.take (i + 1), Node.directory) ∈ (ofRoot root).nodes :=
      List.mem_map.mpr ⟨i, List.mem_range.mpr hi, rfl⟩
    cases there : (ofRoot root).node? (root.take (i + 1)) with
    | none =>
      rw [node?_of_ne_root _ below] at there
      simpa using List.lookup_eq_none_iff.mp there _ inside
    | some node =>
      obtain ⟨j, -, same⟩ := List.mem_map.mp (mem_nodes_of_node? below there)
      rw [(Prod.mk.inj same).2]
  refine isTree_of_forall fun stand listed => ?_
  obtain ⟨i, hi, rfl⟩ := List.mem_map.mp listed
  have inside := List.mem_range.mp hi
  dsimp only
  rw [List.take_succ_eq_append_getElem inside, List.dropLast_concat]
  cases i with
  | zero => rfl
  | succ i => exact stands i (Nat.lt_of_succ_lt inside)

end ReleaseGate.FileSystem
