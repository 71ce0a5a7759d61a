import Mathlib.Data.List.Sort
import ReleaseGate.Proofs.Artifact.Loading
import ReleaseGate.Proofs.Files.Listing

/-!
# What is loaded of a directory

A directory may hold anything: files, directories and links, and bookkeeping files of any kind, in any order. What is loaded of it
is each regular file that is no bookkeeping file, once and with what it holds, in the order of the bytes of the names
(`IsMadeOf`), whatever the order of enumeration was. Loading fails just when something is in its way (`Obstacle`).
-/

namespace ReleaseGate.ArtifactSet

open FileSystem Text

variable {fs fs' : FileSystem} {cwd place : Place} {dir : Path} {version : Version} {name : String} {node : Node}
  {entries : List (String × Node)} {artifacts : List Artifact}

/-! ## Artifacts -/

/-- Whether a regular file stands in a directory that is none of the bookkeeping files. -/
structure IsArtifactFile (fs : FileSystem) (place : Place) (name : String) (bytes : List UInt8) (readable : Bool) : Prop where
  there : fs.node? (place ++ [name]) = some (.file bytes readable)
  noChecksums : name ≠ Checksums.fileName
  noDescriptor : name ≠ Verifier.descriptorFileName

/-- The bookkeeping files have no say in what the artifacts are. -/
theorem IsArtifactFile.congr
    (same : ∀ p, p ≠ place ++ [Verifier.descriptorFileName] → p ≠ place ++ [Checksums.fileName] → fs'.node? p = fs.node? p)
    {bytes : List UInt8} {readable : Bool} :
    IsArtifactFile fs' place name bytes readable ↔ IsArtifactFile fs place name bytes readable := by
  constructor
  · rintro ⟨there, noChecksums, noDescriptor⟩
    exact ⟨(same _ (by simpa using noDescriptor) (by simpa using noChecksums)).symm.trans there, noChecksums, noDescriptor⟩
  · rintro ⟨there, noChecksums, noDescriptor⟩
    exact ⟨(same _ (by simpa using noDescriptor) (by simpa using noChecksums)).trans there, noChecksums, noDescriptor⟩

theorem isBookkeeping_eq_false_iff :
    isBookkeeping name = false ↔ name ≠ Checksums.fileName ∧ name ≠ Verifier.descriptorFileName := by
  simp [isBookkeeping]

/-- The artifact that an entry shows. -/
def shown? (dir : Path) : String × Node → Option Artifact
  | (name, .file bytes _) => if isBookkeeping name then none else some (artifactAt dir name bytes)
  | _ => none

theorem shown?_eq_some_iff {e : String × Node} {a : Artifact} :
    shown? dir e = some a ↔
      ∃ bytes readable, e.2 = .file bytes readable ∧ isBookkeeping e.1 = false ∧ a = artifactAt dir e.1 bytes := by
  obtain ⟨name, node⟩ := e
  cases node with
  | file bytes readable =>
    simp only [shown?, Node.file.injEq]
    cases isBookkeeping name <;> simp [eq_comm]
  | directory => simp [shown?]
  | link target => simp [shown?]

/-- Whether the paths of some entries lead to what the entries are, where they can be read at all. -/
def ReadTruly (fs : FileSystem) (cwd : Place) (dir : Path) (entries : List (String × Node)) : Prop :=
  ∀ name bytes readable, (name, .file bytes readable) ∈ entries →
    ∀ read, fs.readBytes cwd (dir.entry name) = .ok read → read = bytes

theorem artifactOf?_eq_ok_iff {found : Option Artifact} (truly : ReadTruly fs cwd dir [(name, node)]) :
    artifactOf? fs cwd dir name node = .ok found ↔
      ((shown? dir (name, node)).isSome → ∃ bytes, fs.readBytes cwd (dir.entry name) = .ok bytes) ∧
        found = shown? dir (name, node) := by
  cases node with
  | directory => simp [artifactOf?, shown?, eq_comm]
  | link target => simp [artifactOf?, shown?, eq_comm]
  | file bytes readable =>
    unfold artifactOf? shown? digestOf
    by_cases kept : isBookkeeping name = true
    · simp [kept, eq_comm]
    · dsimp only
      rw [if_neg kept, if_neg kept]
      cases read : fs.readBytes cwd (dir.entry name) with
      | error e => simp [Except.map]
      | ok held =>
        obtain rfl := truly name bytes readable (List.mem_singleton.mpr rfl) held read
        simp [Except.map, artifactAt, eq_comm]

/-- The artifacts among some entries are found just when each of them can be read; they are what the entries show. -/
theorem artifactsOf_eq_ok_iff (truly : ReadTruly fs cwd dir entries) :
    artifactsOf fs cwd dir entries = .ok artifacts ↔
      (∀ e ∈ entries, (shown? dir e).isSome → ∃ bytes, fs.readBytes cwd (dir.entry e.1) = .ok bytes) ∧
        artifacts = entries.filterMap (shown? dir) := by
  induction entries generalizing artifacts with
  | nil =>
    rw [artifactsOf, Except.ok.injEq, List.filterMap_nil, eq_comm]
    simp
  | cons e rest ih =>
    obtain ⟨name, node⟩ := e
    have first : ReadTruly fs cwd dir [(name, node)] := fun n b r inside =>
      truly n b r (by rw [List.mem_singleton.mp inside]; exact List.mem_cons_self)
    have later : ReadTruly fs cwd dir rest := fun n b r inside => truly n b r (List.mem_cons_of_mem _ inside)
    rw [artifactsOf, List.forall_mem_cons]
    constructor
    · intro found
      obtain ⟨a, here, found⟩ := bind_eq_ok_iff.mp found
      obtain ⟨others, more, rfl⟩ := map_eq_ok_iff.mp found
      obtain ⟨read, rfl⟩ := (artifactOf?_eq_ok_iff first).mp here
      obtain ⟨readLater, rfl⟩ := (ih later).mp more
      refine ⟨⟨read, readLater⟩, ?_⟩
      rw [List.filterMap_cons]
      cases shown? dir (name, node) <;> rfl
    · rintro ⟨⟨read, readLater⟩, rfl⟩
      rw [(artifactOf?_eq_ok_iff first).mpr ⟨read, rfl⟩, (ih later).mpr ⟨readLater, rfl⟩, List.filterMap_cons]
      cases shown? dir (name, node) <;> rfl

/-! ## The order of a set -/

theorem fileName_of_shown? {e : String × Node} {a : Artifact} (h : shown? dir e = some a) : a.fileName = e.1 := by
  obtain ⟨bytes, readable, -, -, rfl⟩ := shown?_eq_some_iff.mp h
  rfl

/-- Entries of different names show artifacts of different names. -/
theorem pairwise_shown (distinct : (entries.map (·.1)).Nodup) :
    (entries.filterMap (shown? dir)).Pairwise fun a b => a.fileName ≠ b.fileName := by
  refine List.pairwise_filterMap.mpr ((List.pairwise_map.mp distinct).imp fun apart a ha b hb => ?_)
  rw [fileName_of_shown? ha, fileName_of_shown? hb]
  exact apart

/-- Artifacts of different names, once sorted, are in the order of their names. -/
theorem pairwise_sorted (distinct : artifacts.Pairwise fun a b => a.fileName ≠ b.fileName) :
    (sorted artifacts).Pairwise fun a b => a.fileName < b.fileName := by
  have apart : (sorted artifacts).Pairwise fun a b => a.fileName ≠ b.fileName :=
    distinct.perm (List.mergeSort_perm artifacts _).symm Ne.symm
  have ordered : (sorted artifacts).Pairwise fun a b => decide (a.fileName ≤ b.fileName) = true :=
    List.pairwise_mergeSort (fun a b c => by simpa using String.le_trans) (fun a b => by simpa using String.le_total ..) artifacts
  refine (ordered.and apart).imp fun ⟨le, ne⟩ => Checksums.lt_of_not_lt ne.symm ?_
  exact String.not_lt.mpr (of_decide_eq_true le)

/-- Artifacts of different names are sorted into one list, whatever their order was. -/
theorem sorted_eq_of_perm {others : List Artifact} (distinct : artifacts.Pairwise fun a b => a.fileName ≠ b.fileName)
    (order : others.Perm artifacts) : sorted others = sorted artifacts := by
  have same : (sorted others).Perm (sorted artifacts) :=
    (List.mergeSort_perm others _).trans (order.trans (List.mergeSort_perm artifacts _).symm)
  refine same.eq_of_pairwise (fun a b _ _ before after => ?_) (pairwise_sorted (distinct.perm order.symm Ne.symm))
    (pairwise_sorted distinct)
  exact absurd after (String.lt_asymm before)

/-! ## Loading -/

/-- Whether each artifact of a directory can be read. -/
def AllRead (fs : FileSystem) (cwd : Place) (dir : Path) (place : Place) : Prop :=
  ∀ name bytes readable, IsArtifactFile fs place name bytes readable → ∃ read, fs.readBytes cwd (dir.entry name) = .ok read

/-- What is shown among the entries of a directory are the artifacts that stand in it. -/
theorem mem_shown_iff (listed : IsListed fs) {a : Artifact} :
    a ∈ (fs.entriesAt place).filterMap (shown? dir) ↔
      ∃ name bytes readable, IsArtifactFile fs place name bytes readable ∧ a = artifactAt dir name bytes := by
  rw [List.mem_filterMap]
  constructor
  · rintro ⟨⟨name, node⟩, inside, shown⟩
    obtain ⟨bytes, readable, rfl, kept, rfl⟩ := shown?_eq_some_iff.mp shown
    obtain ⟨noChecksums, noDescriptor⟩ := isBookkeeping_eq_false_iff.mp kept
    exact ⟨name, bytes, readable, ⟨listed.mem_entriesAt_iff.mp inside, noChecksums, noDescriptor⟩, rfl⟩
  · rintro ⟨name, bytes, readable, ⟨there, noChecksums, noDescriptor⟩, rfl⟩
    refine ⟨(name, .file bytes readable), listed.mem_entriesAt_iff.mpr there, shown?_eq_some_iff.mpr ?_⟩
    exact ⟨bytes, readable, rfl, isBookkeeping_eq_false_iff.mpr ⟨noChecksums, noDescriptor⟩, rfl⟩

theorem allRead_iff (listed : IsListed fs) :
    AllRead fs cwd dir place ↔
      ∀ e ∈ fs.entriesAt place, (shown? dir e).isSome → ∃ bytes, fs.readBytes cwd (dir.entry e.1) = .ok bytes := by
  constructor
  · intro all e inside shown
    obtain ⟨a, shown⟩ := Option.isSome_iff_exists.mp shown
    obtain ⟨bytes, readable, isFile, kept, -⟩ := shown?_eq_some_iff.mp shown
    obtain ⟨noChecksums, noDescriptor⟩ := isBookkeeping_eq_false_iff.mp kept
    have there : fs.node? (place ++ [e.1]) = some e.2 := listed.mem_entriesAt_iff.mp inside
    exact all e.1 bytes readable ⟨isFile ▸ there, noChecksums, noDescriptor⟩
  · intro all name bytes readable ⟨there, noChecksums, noDescriptor⟩
    refine all (name, .file bytes readable) (listed.mem_entriesAt_iff.mpr there) (Option.isSome_iff_exists.mpr ?_)
    have kept := isBookkeeping_eq_false_iff.mpr ⟨noChecksums, noDescriptor⟩
    exact ⟨_, shown?_eq_some_iff.mpr ⟨bytes, readable, rfl, kept, rfl⟩⟩

/-- When a directory is loaded, and as which set. -/
theorem load_eq_ok_iff (listed : IsListed fs) {s : ArtifactSet} :
    load fs cwd dir version = .ok s ↔
      ∃ place, LeadsTo fs cwd dir place ∧ AllRead fs cwd dir place ∧ loadChecksums fs cwd dir = .ok s.checksums ∧
        loadDescriptor fs cwd dir = .ok s.descriptor ∧ s.version = version ∧ s.dir = dir ∧
        s.artifacts = sorted ((fs.entriesAt place).filterMap (shown? dir)) := by
  have truly : ∀ place, LeadsTo fs cwd dir place → ReadTruly fs cwd dir (fs.entriesAt place) :=
    fun place found name bytes readable inside read result =>
      found.eq_of_readBytes (listed.isName inside) (listed.mem_entriesAt_iff.mp inside) result
  constructor
  · intro loaded
    obtain ⟨entries, artifacts, enumerated, found, checksums, descriptor, whole⟩ := exists_of_load loaded
    obtain ⟨place, leads, rfl⟩ := exists_leadsTo_of_list enumerated
    obtain ⟨read, rfl⟩ := (artifactsOf_eq_ok_iff (truly place leads)).mp found
    rw [whole]
    exact ⟨place, leads, (allRead_iff listed).mpr read, checksums, descriptor, rfl, rfl, rfl⟩
  · rintro ⟨place, leads, read, checksums, descriptor, rfl, rfl, artifacts⟩
    have found := (artifactsOf_eq_ok_iff (truly place leads)).mpr ⟨(allRead_iff listed).mp read, rfl⟩
    unfold load
    rw [leads.list]
    simp only [found, checksums, descriptor, Except.bind, Except.map, ← artifacts]

/-! ## What is in the way of loading -/

/-- What is in the way of loading a directory: it cannot be enumerated, one of its artifacts cannot be read, or a bookkeeping
path leads to a file that cannot be read or does not hold what it should. -/
inductive Obstacle (fs : FileSystem) (cwd : Place) (dir : Path) : Prop where
  | directory (unlisted : ∀ entries, fs.list cwd dir ≠ .ok entries)
  | artifact {place : Place} {name : String} {bytes : List UInt8} {readable : Bool} (found : LeadsTo fs cwd dir place)
      (isArtifact : IsArtifactFile fs place name bytes readable) (unread : ∀ read, fs.readBytes cwd (dir.entry name) ≠ .ok read)
  | bookkeeping {name : String} (kept : isBookkeeping name = true) (isFile : fs.isFile cwd (dir.entry name) = true)
      (unread : ∀ read, fs.readBytes cwd (dir.entry name) ≠ .ok read)
  | checksums {bytes : List UInt8} (read : fs.readBytes cwd (dir.entry Checksums.fileName) = .ok bytes)
      (noText : Utf8.decode bytes = none)
  | descriptor {bytes : List UInt8} (read : fs.readBytes cwd (dir.entry Verifier.descriptorFileName) = .ok bytes)
      (undecodable : ∀ d, decodeDescriptor bytes ≠ .ok d)

theorem isFile_of_readBytes {path : Path} {bytes : List UInt8} (read : fs.readBytes cwd path = .ok bytes) :
    fs.isFile cwd path = true := by
  obtain ⟨⟨place, node⟩, found, read⟩ := bind_eq_ok_iff.mp read
  unfold isFile
  rw [found]
  cases node with
  | file held readable => rfl
  | directory => cases read
  | link target => cases read

theorem loadChecksums_of_noFile (noFile : fs.isFile cwd (dir.entry Checksums.fileName) = false) :
    loadChecksums fs cwd dir = .ok none := by
  unfold loadChecksums
  simp [noFile]

theorem loadDescriptor_of_noFile (noFile : fs.isFile cwd (dir.entry Verifier.descriptorFileName) = false) :
    loadDescriptor fs cwd dir = .ok none := by
  unfold loadDescriptor
  simp [noFile]

/-- When the checksum file of a directory can be loaded: if there is one, it can be read, and it is a text. -/
theorem exists_loadChecksums_iff :
    (∃ recorded, loadChecksums fs cwd dir = .ok recorded) ↔
      (fs.isFile cwd (dir.entry Checksums.fileName) = true →
        ∃ bytes, fs.readBytes cwd (dir.entry Checksums.fileName) = .ok bytes ∧ Utf8.decode bytes ≠ none) := by
  unfold loadChecksums readText
  dsimp only
  by_cases isFile : fs.isFile cwd (dir.entry Checksums.fileName) = true
  · cases read : fs.readBytes cwd (dir.entry Checksums.fileName) with
    | error e => simp [isFile, Except.bind]
    | ok bytes => cases decoded : Utf8.decode bytes <;> simp [isFile, Except.bind, decoded]
  · simp [isFile]

/-- When the descriptor of a directory can be loaded: if there is a file for it, it can be read, and it holds a descriptor. -/
theorem exists_loadDescriptor_iff :
    (∃ descriptor, loadDescriptor fs cwd dir = .ok descriptor) ↔
      (fs.isFile cwd (dir.entry Verifier.descriptorFileName) = true →
        ∃ bytes d, fs.readBytes cwd (dir.entry Verifier.descriptorFileName) = .ok bytes ∧ decodeDescriptor bytes = .ok d) := by
  unfold loadDescriptor
  dsimp only
  by_cases isFile : fs.isFile cwd (dir.entry Verifier.descriptorFileName) = true
  · cases read : fs.readBytes cwd (dir.entry Verifier.descriptorFileName) with
    | error e => simp [isFile]
    | ok bytes => cases decoded : decodeDescriptor bytes <;> simp [isFile, Except.map, decoded]
  · simp [isFile]

/-- Loading fails just when something is in its way. -/
theorem fails_iff_obstacle (listed : IsListed fs) :
    (∀ s, load fs cwd dir version ≠ .ok s) ↔ Obstacle fs cwd dir := by
  constructor
  · intro fails
    refine Classical.byContradiction fun free => ?_
    obtain ⟨entries, enumerated⟩ : ∃ entries, fs.list cwd dir = .ok entries :=
      Classical.byContradiction fun none => free (.directory fun entries same => none ⟨entries, same⟩)
    obtain ⟨place, leads, -⟩ := exists_leadsTo_of_list enumerated
    have allRead : AllRead fs cwd dir place := fun name bytes readable isArtifact =>
      Classical.byContradiction fun none => free (.artifact leads isArtifact fun read same => none ⟨read, same⟩)
    have keptRead : ∀ name, isBookkeeping name = true → fs.isFile cwd (dir.entry name) = true →
        ∃ bytes, fs.readBytes cwd (dir.entry name) = .ok bytes := fun name kept isFile =>
      Classical.byContradiction fun none => free (.bookkeeping kept isFile fun read same => none ⟨read, same⟩)
    obtain ⟨checksums, hasChecksums⟩ : ∃ recorded, loadChecksums fs cwd dir = .ok recorded := by
      refine exists_loadChecksums_iff.mpr fun isFile => ?_
      obtain ⟨bytes, read⟩ := keptRead _ rfl isFile
      exact ⟨bytes, read, fun noText => free (.checksums read noText)⟩
    obtain ⟨descriptor, hasDescriptor⟩ : ∃ descriptor, loadDescriptor fs cwd dir = .ok descriptor := by
      refine exists_loadDescriptor_iff.mpr fun isFile => ?_
      obtain ⟨bytes, read⟩ := keptRead _ rfl isFile
      obtain ⟨d, decoded⟩ : ∃ d, decodeDescriptor bytes = .ok d :=
        Classical.byContradiction fun none => free (.descriptor read fun d same => none ⟨d, same⟩)
      exact ⟨bytes, d, read, decoded⟩
    refine fails
      { version, dir, artifacts := sorted ((fs.entriesAt place).filterMap (shown? dir)), descriptor, checksums } ?_
    exact (load_eq_ok_iff listed).mpr ⟨place, leads, allRead, hasChecksums, hasDescriptor, rfl, rfl, rfl⟩
  · rintro obstacle s loaded
    obtain ⟨place, leads, allRead, hasChecksums, hasDescriptor, -⟩ := (load_eq_ok_iff listed).mp loaded
    have checksumsRead := exists_loadChecksums_iff.mp ⟨_, hasChecksums⟩
    have descriptorRead := exists_loadDescriptor_iff.mp ⟨_, hasDescriptor⟩
    cases obstacle with
    | directory unlisted => exact unlisted _ leads.list
    | @artifact other name bytes readable found isArtifact unread =>
      obtain rfl := found.unique leads
      obtain ⟨read, same⟩ := allRead name bytes readable isArtifact
      exact unread read same
    | @bookkeeping name kept isFile unread =>
      rcases Bool.or_eq_true_iff.mp kept with same | same
      · obtain rfl := eq_of_beq same
        obtain ⟨bytes, read, -⟩ := checksumsRead isFile
        exact unread bytes read
      · obtain rfl := eq_of_beq same
        obtain ⟨bytes, -, read, -⟩ := descriptorRead isFile
        exact unread bytes read
    | @checksums bytes read noText =>
      obtain ⟨bytes', read', text⟩ := checksumsRead (isFile_of_readBytes read)
      obtain rfl := Except.ok.inj (read.symm.trans read')
      exact text noText
    | @descriptor bytes read undecodable =>
      obtain ⟨bytes', d, read', decoded⟩ := descriptorRead (isFile_of_readBytes read)
      obtain rfl := Except.ok.inj (read.symm.trans read')
      exact undecodable d decoded

/-! ## Enumerations -/

/-- A directory is loaded as the same set in whichever order it is enumerated. -/
theorem load_of_perm (listed : IsListed fs) (order : fs'.nodes.Perm fs.nodes) {s : ArtifactSet}
    (loaded : load fs cwd dir version = .ok s) : load fs' cwd dir version = .ok s := by
  have same := listed.node?_of_perm order
  obtain ⟨place, leads, allRead, hasChecksums, hasDescriptor, rfl, rfl, artifacts⟩ := (load_eq_ok_iff listed).mp loaded
  have leads' : LeadsTo fs' cwd s.dir place := (leadsTo_iff_of_same same).mpr leads
  have allRead' : AllRead fs' cwd s.dir place := by
    intro name bytes readable ⟨there, noChecksums, noDescriptor⟩
    rw [readBytes_eq_of_same same]
    exact allRead name bytes readable ⟨same _ ▸ there, noChecksums, noDescriptor⟩
  have sameChecksums : loadChecksums fs' cwd s.dir = loadChecksums fs cwd s.dir := by
    unfold loadChecksums
    dsimp only
    rw [isFile_eq_of_same same, readText_eq_of_same same]
  have sameDescriptor : loadDescriptor fs' cwd s.dir = loadDescriptor fs cwd s.dir := by
    unfold loadDescriptor
    dsimp only
    rw [isFile_eq_of_same same, readBytes_eq_of_same same]
  have sameArtifacts := sorted_eq_of_perm (pairwise_shown (listed.nodup_names place))
    ((perm_entriesAt order place).filterMap (shown? s.dir))
  exact (load_eq_ok_iff (listed.of_perm order)).mpr ⟨place, leads', allRead', sameChecksums.trans hasChecksums,
    sameDescriptor.trans hasDescriptor, rfl, rfl, artifacts.trans sameArtifacts.symm⟩

/-- What a set is made of: exactly the artifacts of the directory, in the order of the bytes of their names; a bookkeeping path
that leads to no file gives nothing. -/
structure IsMadeOf (fs : FileSystem) (cwd : Place) (dir : Path) (version : Version) (s : ArtifactSet) : Prop where
  ofVersion : s.version = version
  ofDirectory : s.dir = dir
  increasing : s.artifacts.Pairwise fun a b => Utf8.encode a.fileName < Utf8.encode b.fileName
  exact : ∃ place, LeadsTo fs cwd dir place ∧
    ∀ a, a ∈ s.artifacts ↔ ∃ name bytes readable, IsArtifactFile fs place name bytes readable ∧ a = artifactAt dir name bytes
  noChecksums : fs.isFile cwd (dir.entry Checksums.fileName) = false → s.checksums = none
  noDescriptor : fs.isFile cwd (dir.entry Verifier.descriptorFileName) = false → s.descriptor = none

/-- A set that is loaded is made of the directory. -/
theorem isMadeOf_of_load (listed : IsListed fs) {s : ArtifactSet} (loaded : load fs cwd dir version = .ok s) :
    IsMadeOf fs cwd dir version s := by
  obtain ⟨place, leads, -, hasChecksums, hasDescriptor, rfl, rfl, artifacts⟩ := (load_eq_ok_iff listed).mp loaded
  refine ⟨rfl, rfl, ?_, ⟨place, leads, fun a => ?_⟩, fun noFile => ?_, fun noFile => ?_⟩
  · rw [artifacts]
    exact (pairwise_sorted (pairwise_shown (listed.nodup_names place))).imp Utf8.encode_lt_encode
  · rw [artifacts, mem_sorted_iff, mem_shown_iff listed]
  · exact (Except.ok.inj ((loadChecksums_of_noFile noFile).symm.trans hasChecksums)).symm
  · exact (Except.ok.inj ((loadDescriptor_of_noFile noFile).symm.trans hasDescriptor)).symm

theorem mem_artifacts_iff_of_load (listed : IsListed fs) (leads : LeadsTo fs cwd dir place) {s : ArtifactSet}
    (loaded : load fs cwd dir version = .ok s) (a : Artifact) :
    a ∈ s.artifacts ↔ ∃ name bytes readable, IsArtifactFile fs place name bytes readable ∧ a = artifactAt dir name bytes := by
  obtain ⟨other, leads', exact⟩ := (isMadeOf_of_load listed loaded).exact
  obtain rfl := leads'.unique leads
  exact exact a

/-- Loading loses nothing and invents nothing: what is loaded of a directory is made of its artifacts, it is the same in whichever
order the directory is enumerated, and any order of its entries is one of those, and loading fails just when something is in its
way. -/
theorem load_complete (listed : IsListed fs) (cwd : Place) (dir : Path) (version : Version) :
    (∀ s, load fs cwd dir version = .ok s → IsMadeOf fs cwd dir version s) ∧
      (∀ fs' : FileSystem, fs'.nodes.Perm fs.nodes →
        ∀ s, load fs' cwd dir version = .ok s ↔ load fs cwd dir version = .ok s) ∧
      (∀ entries inOrder, fs.list cwd dir = .ok entries → inOrder.Perm entries →
        ∃ fs' : FileSystem, fs'.nodes.Perm fs.nodes ∧ fs'.list cwd dir = .ok inOrder) ∧
      ((∀ s, load fs cwd dir version ≠ .ok s) ↔ Obstacle fs cwd dir) := by
  refine ⟨fun _ => isMadeOf_of_load listed, fun fs' order s => ?_, fun entries inOrder enumerated order => ?_,
    fails_iff_obstacle listed⟩
  · exact ⟨load_of_perm (listed.of_perm order) order.symm, load_of_perm listed order⟩
  · exact listed.exists_list enumerated order

namespace Assorted

/-- A root directory with two files, a directory, a link, and a directory in the place of the checksum file. -/
def root : FileSystem :=
  ⟨[(["b.zip"], .file [1] true), (["notes"], .directory), (["latest"], .link ⟨"b.zip"⟩), (["a.zip"], .file [2, 3] true),
    ([Checksums.fileName], .directory)]⟩

theorem isListed_root : IsListed root := by decide

theorem leadsTo_root : LeadsTo root [] ⟨"/"⟩ [] :=
  ⟨by decide, by decide, by decide, ⟨maxLinks, .here maxLinks []⟩, rfl⟩

theorem allRead_root : AllRead root [] ⟨"/"⟩ [] := by
  intro name bytes readable ⟨there, noChecksums, _⟩
  have entries : root.entriesAt [] =
      [("b.zip", .file [1] true), ("notes", .directory), ("latest", .link ⟨"b.zip"⟩), ("a.zip", .file [2, 3] true),
        (Checksums.fileName, .directory)] := by decide
  have inside := isListed_root.mem_entriesAt_iff.mpr there
  obtain ⟨rfl, -⟩ | ⟨rfl, -⟩ : name = "b.zip" ∧ _ ∨ name = "a.zip" ∧ _ := by simpa [entries] using inside
  · exact ⟨[1], readBytes_of_step "b.zip" (by decide) (by decide) (by decide)⟩
  · exact ⟨[2, 3], readBytes_of_step "a.zip" (by decide) (by decide) (by decide)⟩

theorem noChecksums_root : root.isFile [] (Path.entry ⟨"/"⟩ Checksums.fileName) = false := by
  have steps : (Path.entry ⟨"/"⟩ Checksums.fileName).steps = [Checksums.fileName] := by decide
  have leads : LeadsTo root [] (Path.entry ⟨"/"⟩ Checksums.fileName) [Checksums.fileName] :=
    ⟨by decide, by decide, by decide, ⟨maxLinks, steps ▸ .down (by decide) (by decide) (by decide) (.here ..)⟩, by decide⟩
  unfold isFile
  rw [find_eq_directory_iff.mpr leads]

theorem noDescriptor_root : root.isFile [] (Path.entry ⟨"/"⟩ Verifier.descriptorFileName) = false := by
  have missing : root.node? [Verifier.descriptorFileName] = none := by decide
  have resolved := leadsTo_root.resolve_entry ⟨isName_descriptor, by decide, by decide⟩ (.inl missing) true
  unfold isFile find
  rw [resolved]
  simp [Except.bind, missing]

/-- The root directory is loaded, and so it is when it is enumerated from its end. -/
theorem load_complete_assorted :
    IsListed root ∧ ∃ s, load root [] ⟨"/"⟩ ⟨"1.0", by decide⟩ = .ok s ∧ IsMadeOf root [] ⟨"/"⟩ ⟨"1.0", by decide⟩ s ∧
      load ⟨root.nodes.reverse⟩ [] ⟨"/"⟩ ⟨"1.0", by decide⟩ = .ok s := by
  obtain ⟨made, anyOrder, -, -⟩ := load_complete isListed_root [] ⟨"/"⟩ ⟨"1.0", by decide⟩
  obtain ⟨s, loaded⟩ : ∃ s, load root [] ⟨"/"⟩ ⟨"1.0", by decide⟩ = .ok s := by
    refine ⟨{ version := ⟨"1.0", by decide⟩, dir := ⟨"/"⟩, artifacts := sorted ((root.entriesAt []).filterMap (shown? ⟨"/"⟩))
              descriptor := none, checksums := none }, (load_eq_ok_iff isListed_root).mpr ?_⟩
    exact ⟨[], leadsTo_root, allRead_root, loadChecksums_of_noFile noChecksums_root, loadDescriptor_of_noFile noDescriptor_root,
      rfl, rfl, rfl⟩
  exact ⟨isListed_root, s, loaded, made s loaded, (anyOrder _ (List.reverse_perm _) s).mpr loaded⟩

end Assorted

end ReleaseGate.ArtifactSet
