import ReleaseGate.Files.FileSystem

/-!
# Directories of files

A directory is used through two things only: its path leads to it, and it has entries. `Holds` says of a directory which files it
has; a file is read by its entry, a name that is not there leads to nothing, and writing a file under a new name adds it and
leaves the others as they are. Names and paths are within the limits of the system (`Fits`).
-/

namespace ReleaseGate

section Results

variable {ε α β : Type} {x : Except ε α} {result : β}

theorem bind_eq_ok_iff {f : α → Except ε β} : x.bind f = .ok result ↔ ∃ a, x = .ok a ∧ f a = .ok result := by
  cases x <;> simp [Except.bind]

theorem map_eq_ok_iff {f : α → β} : x.map f = .ok result ↔ ∃ a, x = .ok a ∧ f a = result := by
  cases x <;> simp [Except.map]

end Results

section Association

variable {α β γ : Type} [BEq α] [LawfulBEq α] {entries : List (α × β)} {key : α} {value : β}

omit [LawfulBEq α] in
theorem lookup_map_snd (f : β → γ) : (entries.map fun e => (e.1, f e.2)).lookup key = (entries.lookup key).map f := by
  induction entries with
  | nil => rfl
  | cons head rest ih =>
    rw [List.map_cons, List.lookup_cons, List.lookup_cons]
    cases key == head.1
    · exact ih
    · rfl

/-- Where each key comes once, an entry is found by its key. -/
theorem lookup_of_mem (distinct : (entries.map (·.1)).Nodup) (h : (key, value) ∈ entries) : entries.lookup key = some value := by
  obtain ⟨before, after, rfl⟩ := List.append_of_mem h
  rw [List.map_append, List.map_cons, List.nodup_append] at distinct
  refine List.lookup_eq_some_iff.mpr ⟨before, after, rfl, fun e he => ?_⟩
  have apart := distinct.2.2 e.1 (List.mem_map_of_mem he) key List.mem_cons_self
  simpa using Ne.symm apart

theorem mem_iff_lookup (distinct : (entries.map (·.1)).Nodup) : (key, value) ∈ entries ↔ entries.lookup key = some value := by
  refine ⟨lookup_of_mem distinct, fun found => ?_⟩
  obtain ⟨before, after, whole, -⟩ := List.lookup_eq_some_iff.mp found
  simp [whole]

theorem lookup_eq_none_of_not_mem (h : key ∉ entries.map (·.1)) : entries.lookup key = none := by
  refine List.lookup_eq_none_iff.mpr fun e he => ?_
  have apart : key ≠ e.1 := by
    rintro rfl
    exact h (List.mem_map_of_mem he)
  simpa using apart

end Association

namespace FileSystem

/-! ## Ways to directories -/

/-- A way through directories: from a place along some names to another place, with so many links still to be followed at its
start and at its end. -/
inductive Way (fs : FileSystem) : Nat → Place → List String → Nat → Place → Prop where
  | here (links : Nat) (place : Place) : Way fs links place [] links place
  | up {links left : Nat} {place q : Place} {rest : List String} (onward : Way fs links place.dropLast rest left q) :
      Way fs links place (".." :: rest) left q
  | down {links left : Nat} {place q : Place} {name : String} {rest : List String} (notUp : name ≠ "..")
      (short : name.utf8ByteSize ≤ maxNameBytes) (there : fs.node? (place ++ [name]) = some .directory)
      (onward : Way fs links (place ++ [name]) rest left q) : Way fs links place (name :: rest) left q
  | across {links left : Nat} {place q : Place} {name : String} {rest : List String} {target : Path} (notUp : name ≠ "..")
      (short : name.utf8ByteSize ≤ maxNameBytes) (there : fs.node? (place ++ [name]) = some (.link target))
      (onward : Way fs links (if target.isAbsolute then [] else place) (target.steps ++ rest) left q) :
      Way fs (links + 1) place (name :: rest) left q

/-- A walk that ends at a directory took a way. -/
theorem exists_way_of_walk {fs : FileSystem} {links : Nat} {place q : Place} {names : List String}
    (walked : fs.walk true links place names = .ok q) (directory : fs.node? q = some .directory) :
    ∃ left, Way fs links place names left q := by
  fun_induction walk fs true links place names with
  | case1 links place =>
    obtain rfl := Except.ok.inj walked
    exact ⟨links, .here links place⟩
  | case2 links place name rest up ih =>
    obtain ⟨left, way⟩ := ih walked
    obtain rfl := eq_of_beq up
    exact ⟨left, .up way⟩
  | case8 links place name rest notUp short there ih =>
    obtain ⟨left, way⟩ := ih walked
    exact ⟨left, .down (by simpa using notUp) (Nat.le_of_not_lt short) there way⟩
  | case11 place name rest notUp short target there _ links ih =>
    obtain ⟨left, way⟩ := ih walked
    exact ⟨left, .across (by simpa using notUp) (Nat.le_of_not_lt short) there way⟩
  -- the way is at its end, and no directory stands there
  | _ => simp_all

/-- A walk along a way goes on from its end. Only the last name of a walk may be one that is not followed. -/
theorem Way.walk {fs : FileSystem} {links left : Nat} {place q : Place} {names : List String}
    (way : Way fs links place names left q) {follow : Bool} {rest : List String} (onward : rest = [] → follow = true) :
    fs.walk follow links place (names ++ rest) = fs.walk follow left q rest := by
  induction way with
  | here => rfl
  | up _ ih =>
    rw [List.cons_append, FileSystem.walk, if_pos (beq_self_eq_true "..")]
    exact ih
  | down notUp short there _ ih =>
    rw [List.cons_append, FileSystem.walk, if_neg (by simpa using notUp), if_neg (Nat.not_lt.mpr short), there]
    exact ih
  | across notUp short there _ ih =>
    have followed : ∀ names : List String, ¬((names ++ rest).isEmpty && !follow) = true := by
      intro names
      cases rest with
      | nil => simp [onward rfl]
      | cons name more => simp
    rw [List.cons_append, FileSystem.walk, if_neg (by simpa using notUp), if_neg (Nat.not_lt.mpr short), there]
    simp only [if_neg (followed _)]
    simpa using ih

theorem Way.walk_concat {fs : FileSystem} {links left : Nat} {place q : Place} {names : List String}
    (way : Way fs links place names left q) (follow : Bool) (name : String) :
    fs.walk follow links place (names ++ [name]) = fs.walk follow left q [name] := way.walk nofun

/-- A way stays open where all that stood still stands, files aside. -/
theorem Way.mono {fs fs' : FileSystem} {links left : Nat} {place q : Place} {names : List String}
    (way : Way fs links place names left q)
    (kept : ∀ p node, (∀ bytes readable, node ≠ .file bytes readable) → fs.node? p = some node → fs'.node? p = some node) :
    Way fs' links place names left q := by
  induction way with
  | here links place => exact .here links place
  | up _ ih => exact .up ih
  | down notUp short there _ ih => exact .down notUp short (kept _ _ nofun there) ih
  | across notUp short there _ ih => exact .across notUp short (kept _ _ nofun there) ih

/-- What a path that leads to a directory is: a way there, and a text that the system takes. -/
structure LeadsTo (fs : FileSystem) (cwd : Place) (dir : Path) (place : Place) : Prop where
  inhabited : dir.text ≠ ""
  noZero : '\x00' ∉ dir.text.toList
  short : dir.text.utf8ByteSize ≤ maxPathBytes
  way : ∃ left, Way fs maxLinks (if dir.isAbsolute then [] else cwd) dir.steps left place
  directory : fs.node? place = some .directory

theorem LeadsTo.mono {fs fs' : FileSystem} {cwd place : Place} {dir : Path} (h : LeadsTo fs cwd dir place)
    (kept : ∀ p node, (∀ bytes readable, node ≠ .file bytes readable) → fs.node? p = some node → fs'.node? p = some node) :
    LeadsTo fs' cwd dir place := by
  obtain ⟨left, way⟩ := h.way
  exact ⟨h.inhabited, h.noZero, h.short, ⟨left, way.mono kept⟩, kept _ _ nofun h.directory⟩

/-- What a path resolves to: where its walk ends, for a text that the system takes; no file, when it can only name a directory. -/
theorem resolve_eq_ok_iff {fs : FileSystem} {cwd place : Place} {path : Path} {follow : Bool} :
    fs.resolve cwd path follow = .ok place ↔
      (path.text ≠ "" ∧ '\x00' ∉ path.text.toList ∧ path.text.utf8ByteSize ≤ maxPathBytes) ∧
        fs.walk (follow || path.namesDirectory) maxLinks (if path.isAbsolute then [] else cwd) path.steps = .ok place ∧
        (path.namesDirectory = true → ∀ bytes readable, fs.node? place ≠ some (.file bytes readable)) := by
  unfold resolve
  by_cases empty : path.text = ""
  · simp [empty]
  by_cases zero : '\x00' ∈ path.text.toList
  · simp [empty, zero]
  by_cases long : path.text.utf8ByteSize > maxPathBytes
  · simp [empty, zero, long, Nat.not_le.mpr long]
  rw [if_neg (by simpa using empty), if_neg (by simpa using zero), if_neg long]
  simp only [ne_eq, empty, not_false_eq_true, zero, Nat.le_of_not_lt long, and_self, true_and]
  cases walked : fs.walk (follow || path.namesDirectory) maxLinks (if path.isAbsolute then [] else cwd) path.steps with
  | error e => simp
  | ok p =>
    dsimp only
    split
    next bytes readable there =>
      by_cases directory : path.namesDirectory = true
      · simp only [directory, if_true]
        constructor
        · nofun
        · rintro ⟨same, noFile⟩
          obtain rfl := Except.ok.inj same
          exact absurd there (noFile trivial bytes readable)
      · simp [directory]
    next noFile =>
      constructor
      · intro same
        obtain rfl := Except.ok.inj same
        exact ⟨rfl, fun _ => noFile⟩
      · exact And.left

theorem find_eq_directory_iff {fs : FileSystem} {cwd place : Place} {dir : Path} :
    fs.find cwd dir = .ok (place, .directory) ↔ LeadsTo fs cwd dir place := by
  constructor
  · intro found
    obtain ⟨p, resolved, found⟩ := bind_eq_ok_iff.mp found
    have stands : p = place ∧ fs.node? p = some .directory := by
      split at found
      next node there =>
        obtain ⟨rfl, rfl⟩ := Prod.mk.inj (Except.ok.inj found)
        exact ⟨rfl, there⟩
      next => cases found
    obtain ⟨rfl, directory⟩ := stands
    obtain ⟨⟨inhabited, noZero, short⟩, walked, -⟩ := resolve_eq_ok_iff.mp resolved
    rw [Bool.true_or] at walked
    exact ⟨inhabited, noZero, short, exists_way_of_walk walked directory, directory⟩
  · intro h
    obtain ⟨left, way⟩ := h.way
    have walked : fs.walk true maxLinks (if dir.isAbsolute then [] else cwd) (dir.steps ++ []) = fs.walk true left place [] :=
      way.walk fun _ => rfl
    rw [List.append_nil, FileSystem.walk] at walked
    have resolved : fs.resolve cwd dir true = .ok place := by
      refine resolve_eq_ok_iff.mpr ⟨⟨h.inhabited, h.noZero, h.short⟩, by rw [Bool.true_or]; exact walked, fun _ bytes readable => ?_⟩
      rw [h.directory]
      exact fun other => Node.noConfusion (Option.some.inj other)
    unfold find
    rw [resolved]
    simp only [Except.bind, h.directory]

/-! ## Entries -/

theorem entryName?_eq_some_iff {dir place : Place} {name : String} : entryName? dir place = some name ↔ place = dir ++ [name] := by
  constructor
  · intro h
    unfold entryName? at h
    split at h
    next n found =>
      obtain rfl := Option.some.inj h
      exact Text.eq_append_of_afterPrefix? found
    next => cases h
  · rintro rfl
    simp [entryName?]

/-- An entry of a directory is what stands at its place. -/
theorem lookup_entriesAt (fs : FileSystem) (dir : Place) (name : String) :
    (fs.entriesAt dir).lookup name = fs.nodes.lookup (dir ++ [name]) := by
  unfold entriesAt
  induction fs.nodes with
  | nil => rfl
  | cons head rest ih =>
    obtain ⟨place, node⟩ := head
    rw [List.filterMap_cons, List.lookup_cons]
    by_cases here : dir ++ [name] = place
    · subst here
      have named := entryName?_eq_some_iff.mpr (Eq.refl (dir ++ [name]))
      simp [named]
    · rw [beq_false_of_ne here]
      cases e : entryName? dir place with
      | none => simpa [e] using ih
      | some n =>
        have other : name ≠ n := by
          rintro rfl
          exact here (entryName?_eq_some_iff.mp e).symm
        simpa [e, List.lookup_cons, beq_false_of_ne other] using ih

/-- Something new in a directory is its last entry. -/
theorem entriesAt_put_new {fs : FileSystem} {dir : Place} {name : String} (missing : fs.node? (dir ++ [name]) = none)
    (node : Node) :
    (fs.put (dir ++ [name]) node).entriesAt dir = fs.entriesAt dir ++ [(name, node)] := by
  rw [node?_of_ne_root _ (by simp)] at missing
  have named := entryName?_eq_some_iff.mpr (Eq.refl (dir ++ [name]))
  simp [put, missing, entriesAt, named]

/-! ## Directories that hold some files -/

/-- Whether the name and the path of a file in a directory are within the limits of the system. -/
structure IsShort (dir : Path) (name : String) : Prop where
  shortName : name.utf8ByteSize ≤ maxNameBytes
  shortPath : (dir.entry name).text.utf8ByteSize ≤ maxPathBytes

/-- Whether a file can stand in a directory under a name. -/
structure Fits (dir : Path) (name : String) : Prop extends Path.IsName name, IsShort dir name

/-- Whether a directory holds exactly some files, each readable and of a name of its own. -/
structure Holds (fs : FileSystem) (cwd : Place) (dir : Path) (files : List (String × List UInt8)) : Prop where
  listed : fs.list cwd dir = .ok (files.map fun f => (f.1, .file f.2 true))
  distinct : (files.map (·.1)).Nodup

variable {fs : FileSystem} {cwd place : Place} {dir : Path} {name : String} {files : List (String × List UInt8)}

/-- Entries that are listed are those of the directory to which the path leads. -/
theorem exists_leadsTo_of_list {entries : List (String × Node)} (listed : fs.list cwd dir = .ok entries) :
    ∃ place, LeadsTo fs cwd dir place ∧ fs.entriesAt place = entries := by
  obtain ⟨⟨place, node⟩, found, listed⟩ := bind_eq_ok_iff.mp listed
  cases node with
  | directory => exact ⟨place, find_eq_directory_iff.mp found, Except.ok.inj listed⟩
  | file bytes readable => cases listed
  | link target => cases listed

theorem Holds.leadsTo (h : Holds fs cwd dir files) :
    ∃ place, LeadsTo fs cwd dir place ∧ fs.entriesAt place = files.map fun f => (f.1, .file f.2 true) :=
  exists_leadsTo_of_list h.listed

theorem LeadsTo.list (h : LeadsTo fs cwd dir place) : fs.list cwd dir = .ok (fs.entriesAt place) := by
  unfold FileSystem.list
  rw [find_eq_directory_iff.mpr h]
  rfl

theorem LeadsTo.unique {other : Place} (h : LeadsTo fs cwd dir place) (h' : LeadsTo fs cwd dir other) : place = other := by
  have same := (find_eq_directory_iff.mpr h).symm.trans (find_eq_directory_iff.mpr h')
  exact (Prod.mk.inj (Except.ok.inj same)).1

/-- Whether a file stands at a place, or nothing. -/
def IsLeaf (fs : FileSystem) (place : Place) : Prop :=
  fs.node? place = none ∨ ∃ bytes readable, fs.node? place = some (.file bytes readable)

theorem walk_leaf (follow : Bool) (links : Nat) (notUp : name ≠ "..") (short : name.utf8ByteSize ≤ maxNameBytes)
    (leaf : IsLeaf fs (place ++ [name])) : fs.walk follow links place [name] = .ok (place ++ [name]) := by
  rw [FileSystem.walk, if_neg (by simpa using notUp), if_neg (Nat.not_lt.mpr short)]
  rcases leaf with missing | ⟨bytes, readable, there⟩
  · simp [missing]
  · simp [there]

/-- Where a path leads to a directory, the path of an entry leads to the entry, be it a file or not there. -/
theorem LeadsTo.resolve_entry (h : LeadsTo fs cwd dir place) (fits : Fits dir name)
    (leaf : IsLeaf fs (place ++ [name])) (follow : Bool) : fs.resolve cwd (dir.entry name) follow = .ok (place ++ [name]) := by
  obtain ⟨left, way⟩ := h.way
  have walked := (way.walk_concat follow name).trans (walk_leaf follow left fits.notUp fits.shortName leaf)
  obtain ⟨text, spelled, dirText⟩ := Path.entry_text fits.toIsName h.inhabited
  have inhabited : (dir.entry name).text ≠ "" := by
    intro empty
    rw [empty] at spelled
    simp at spelled
  have noZero : '\x00' ∉ (dir.entry name).text.toList := by
    rw [spelled]
    intro zero
    have inText : '\x00' ∉ text := by
      intro inside
      refine h.noZero ?_
      rcases dirText with e | e <;> simp [e, inside]
    simp [inText, fits.noZero] at zero
  have noDirectory := Path.namesDirectory_entry fits.toIsName h.inhabited
  rw [resolve_eq_ok_iff, Path.isAbsolute_entry fits.toIsName h.inhabited, Path.steps_entry fits.toIsName h.inhabited, noDirectory,
    Bool.or_false]
  exact ⟨⟨inhabited, noZero, fits.shortPath⟩, walked, nofun⟩

/-- An entry that is found by its path has a name and a path within the limits, and is found by its name in the directory. -/
theorem LeadsTo.of_resolve_entry (h : LeadsTo fs cwd dir place) (named : Path.IsName name) {follow : Bool} {p : Place}
    (resolved : fs.resolve cwd (dir.entry name) follow = .ok p) :
    IsShort dir name ∧ ∃ left, fs.walk follow left place [name] = .ok p := by
  obtain ⟨⟨-, -, shortPath⟩, walked, -⟩ := resolve_eq_ok_iff.mp resolved
  rw [Path.isAbsolute_entry named h.inhabited, Path.steps_entry named h.inhabited, Path.namesDirectory_entry named h.inhabited,
    Bool.or_false] at walked
  obtain ⟨left, way⟩ := h.way
  rw [way.walk_concat] at walked
  refine ⟨⟨Nat.le_of_not_lt fun long => ?_, shortPath⟩, left, walked⟩
  rw [FileSystem.walk, if_neg (by simpa using named.notUp), if_pos long] at walked
  cases walked

/-- A new directory can be made in a directory. -/
theorem LeadsTo.makeDirectory (h : LeadsTo fs cwd dir place) (fits : Fits dir name) (missing : fs.node? (place ++ [name]) = none) :
    fs.makeDirectory cwd (dir.entry name) = .ok (fs.put (place ++ [name]) .directory) := by
  unfold FileSystem.makeDirectory
  rw [h.resolve_entry fits (.inl missing)]
  simp [Except.bind, missing, h.directory]

/-- In a directory of files, what stands at the place of an entry is the file of that name. -/
theorem Holds.node? (h : Holds fs cwd dir files) (found : LeadsTo fs cwd dir place) (name : String) :
    fs.node? (place ++ [name]) = (files.lookup name).map (.file · true) := by
  have entries : fs.entriesAt place = files.map fun f => (f.1, .file f.2 true) :=
    Except.ok.inj (found.list.symm.trans h.listed)
  rw [node?_of_ne_root _ (by simp), ← lookup_entriesAt, entries]
  exact lookup_map_snd (Node.file · true)

theorem Holds.isLeaf (h : Holds fs cwd dir files) (found : LeadsTo fs cwd dir place) (name : String) :
    IsLeaf fs (place ++ [name]) := by
  unfold IsLeaf
  rw [h.node? found name]
  cases files.lookup name with
  | none => exact .inl rfl
  | some bytes => exact .inr ⟨bytes, true, rfl⟩

/-- What the path of an entry leads to, in a directory of files: the file of that name, if there is one. -/
theorem Holds.find_entry (h : Holds fs cwd dir files) (fits : Fits dir name) :
    (∃ p bytes, files.lookup name = some bytes ∧ fs.find cwd (dir.entry name) = .ok (p, .file bytes true)) ∨
      files.lookup name = none ∧ fs.find cwd (dir.entry name) = .error .notFound := by
  obtain ⟨place, found, -⟩ := h.leadsTo
  have resolved := found.resolve_entry fits (h.isLeaf found name) true
  have stands := h.node? found name
  unfold find
  rw [resolved]
  cases e : files.lookup name with
  | none => exact .inr ⟨rfl, by simp [Except.bind, stands, e]⟩
  | some bytes => exact .inl ⟨place ++ [name], bytes, rfl, by simp [Except.bind, stands, e]⟩

theorem Holds.readBytes (h : Holds fs cwd dir files) (fits : Fits dir name) {bytes : List UInt8} (there : (name, bytes) ∈ files) :
    fs.readBytes cwd (dir.entry name) = .ok bytes := by
  have known := lookup_of_mem h.distinct there
  rcases h.find_entry fits with ⟨p, bytes', looked, found⟩ | ⟨missing, -⟩
  · obtain rfl : bytes = bytes' := Option.some.inj (known.symm.trans looked)
    unfold FileSystem.readBytes
    rw [found]
    rfl
  · rw [known] at missing
    cases missing

theorem Holds.isFile_iff (h : Holds fs cwd dir files) (fits : Fits dir name) :
    fs.isFile cwd (dir.entry name) = true ↔ name ∈ files.map (·.1) := by
  unfold isFile
  rcases h.find_entry fits with ⟨p, bytes, looked, found⟩ | ⟨missing, notFound⟩
  · obtain ⟨before, after, rfl, -⟩ := List.lookup_eq_some_iff.mp looked
    simp [found]
  · rw [notFound]
    refine iff_of_false (by simp) fun inside => ?_
    obtain ⟨⟨n, bytes⟩, hf, rfl⟩ := List.mem_map.mp inside
    rw [lookup_of_mem h.distinct hf] at missing
    cases missing

/-- Writing a file under a name that is not there adds it to the directory and leaves the other files as they are. -/
theorem Holds.writeBytes (h : Holds fs cwd dir files) (fits : Fits dir name) (fresh : name ∉ files.map (·.1))
    (bytes : List UInt8) :
    ∃ fs', fs.writeBytes cwd (dir.entry name) bytes = .ok fs' ∧ Holds fs' cwd dir (files ++ [(name, bytes)]) := by
  obtain ⟨place, found, entries⟩ := h.leadsTo
  have resolved := found.resolve_entry fits (h.isLeaf found name) true
  have missing : fs.node? (place ++ [name]) = none := by
    rw [h.node? found name, lookup_eq_none_of_not_mem fresh]
    rfl
  refine ⟨fs.put (place ++ [name]) (.file bytes true), ?_, ?_, ?_⟩
  · unfold FileSystem.writeBytes
    rw [resolved]
    simp [Except.bind, missing, Path.namesDirectory_entry fits.toIsName found.inhabited]
  · have kept : ∀ p node, fs.node? p = some node → (fs.put (place ++ [name]) (.file bytes true)).node? p = some node := by
      intro p node stood
      rw [node?_put _ (by simp), if_neg]
      · exact stood
      · rintro rfl
        rw [missing] at stood
        cases stood
    have found' : LeadsTo (fs.put (place ++ [name]) (.file bytes true)) cwd dir place := found.mono fun p node _ => kept p node
    rw [found'.list, entriesAt_put_new missing, entries]
    simp
  · rw [List.map_append, List.nodup_append]
    refine ⟨h.distinct, by simp, fun n hn m hm => ?_⟩
    rintro rfl
    obtain rfl : n = name := by simpa using hm
    exact fresh hn

end FileSystem

end ReleaseGate
