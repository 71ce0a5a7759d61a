import Mathlib.Data.List.Nodup
import ReleaseGate.Proofs.Files.Directory

/-!
# Entries and their order

Where each place comes once (`IsListed`), the entries of a directory are what stands at the places in it, and the order in which
they are enumerated changes nothing but that order: paths lead where they led, and files hold what they held (`find_eq_of_same`). Every
order of the entries of one directory is one in which a file system may list them (`IsListed.exists_list`).
-/

namespace ReleaseGate.FileSystem

variable {fs fs' : FileSystem} {cwd place : Place} {dir path : Path} {name : String} {node : Node}

/-- Whether each place comes once, on a way of names. -/
structure IsListed (fs : FileSystem) : Prop where
  distinct : (fs.nodes.map (·.1)).Nodup
  named : ∀ stands ∈ fs.nodes, ∀ name ∈ stands.1, Path.IsName name

instance (fs : FileSystem) : Decidable (IsListed fs) :=
  decidable_of_iff ((fs.nodes.map (·.1)).Nodup ∧ ∀ stands ∈ fs.nodes, ∀ name ∈ stands.1, Path.IsName name)
    ⟨fun ⟨distinct, named⟩ => ⟨distinct, named⟩, fun h => ⟨h.distinct, h.named⟩⟩

/-! ## Entries -/

/-- An entry of a directory is what stands at its place. -/
theorem IsListed.mem_entriesAt_iff (listed : IsListed fs) :
    (name, node) ∈ fs.entriesAt place ↔ fs.node? (place ++ [name]) = some node := by
  rw [node?_of_ne_root _ (by simp), ← mem_iff_lookup listed.distinct]
  unfold entriesAt
  rw [List.mem_filterMap]
  constructor
  · rintro ⟨⟨p, there⟩, inside, e⟩
    obtain ⟨n, named, same⟩ := Option.map_eq_some_iff.mp e
    obtain ⟨rfl, rfl⟩ := Prod.mk.inj same
    obtain rfl := entryName?_eq_some_iff.mp named
    exact inside
  · intro inside
    exact ⟨_, inside, by simp [entryName?_eq_some_iff.mpr (Eq.refl (place ++ [name]))]⟩

theorem entriesAt_eq (fs : FileSystem) (place : Place) :
    fs.entriesAt place = fs.nodes.filterMap fun stands => (entryName? place stands.1).map fun name => (name, stands.2) := rfl

theorem names_entriesAt (fs : FileSystem) (place : Place) :
    (fs.entriesAt place).map (·.1) = (fs.nodes.map (·.1)).filterMap (entryName? place) := by
  rw [entriesAt_eq, List.map_filterMap, List.filterMap_map]
  refine List.filterMap_congr fun stands _ => ?_
  simp [Option.map_map, Function.comp_def]

/-- Each entry of a directory has a name of its own. -/
theorem IsListed.nodup_names (listed : IsListed fs) (place : Place) : ((fs.entriesAt place).map (·.1)).Nodup := by
  rw [names_entriesAt]
  refine listed.distinct.filterMap fun p q n hp hq => ?_
  rw [entryName?_eq_some_iff.mp hp, entryName?_eq_some_iff.mp hq]

theorem IsListed.isName (listed : IsListed fs) (there : (name, node) ∈ fs.entriesAt place) : Path.IsName name := by
  have stands := listed.mem_entriesAt_iff.mp there
  rw [node?_of_ne_root _ (by simp), ← mem_iff_lookup listed.distinct] at stands
  exact listed.named _ stands name (by simp)

theorem places_put (fs : FileSystem) (place : Place) (node : Node) :
    (fs.put place node).nodes.map (·.1) =
      if (fs.nodes.lookup place).isSome then fs.nodes.map (·.1) else fs.nodes.map (·.1) ++ [place] := by
  unfold FileSystem.put
  split
  next =>
    rw [List.map_map]
    refine List.map_congr_left fun stands _ => ?_
    dsimp only [Function.comp_apply]
    split <;> rfl
  next => simp

/-- Something that is put under a name into a directory keeps each place on its own. -/
theorem IsListed.put (listed : IsListed fs) (directory : fs.node? place = some .directory) (named : Path.IsName name) (node : Node) :
    IsListed (fs.put (place ++ [name]) node) := by
  have onWay : ∀ n ∈ place ++ [name], Path.IsName n := by
    refine List.forall_mem_append.mpr ⟨?_, List.forall_mem_singleton.mpr named⟩
    by_cases root : place = []
    · simp [root]
    · rw [node?_of_ne_root _ root, ← mem_iff_lookup listed.distinct] at directory
      exact listed.named _ directory
  have places := places_put fs (place ++ [name]) node
  have named : ∀ p ∈ fs.nodes.map (·.1), ∀ n ∈ p, Path.IsName n := List.forall_mem_map.mpr listed.named
  split at places
  next =>
    exact ⟨places ▸ listed.distinct, fun stands inside => named _ (places ▸ List.mem_map_of_mem inside)⟩
  next missing =>
    constructor
    · rw [places, List.nodup_append]
      refine ⟨listed.distinct, by simp, fun p hp q hq => ?_⟩
      rintro rfl
      obtain rfl : p = place ++ [name] := by simpa using hq
      obtain ⟨stands, there, same⟩ := List.mem_map.mp hp
      exact missing (Option.isSome_iff_exists.mpr ⟨stands.2, lookup_of_mem listed.distinct (same ▸ there)⟩)
    · intro stands inside
      have either : stands.1 ∈ fs.nodes.map (·.1) ++ [place ++ [name]] := places ▸ List.mem_map_of_mem inside
      exact List.forall_mem_append.mpr ⟨named, List.forall_mem_singleton.mpr onWay⟩ _ either

/-- What is read by the path of an entry that is a file, if anything, are the bytes of that file. -/
theorem LeadsTo.eq_of_readBytes (found : LeadsTo fs cwd dir place) (named : Path.IsName name) {bytes read : List UInt8}
    {readable : Bool} (there : fs.node? (place ++ [name]) = some (.file bytes readable))
    (result : fs.readBytes cwd (dir.entry name) = .ok read) : read = bytes := by
  obtain ⟨stands, located, result⟩ := bind_eq_ok_iff.mp result
  obtain ⟨p, resolved, located⟩ := bind_eq_ok_iff.mp located
  obtain ⟨short, left, walked⟩ := found.of_resolve_entry named resolved
  rw [walk_leaf true left named.notUp short.shortName (.inr ⟨bytes, readable, there⟩)] at walked
  obtain rfl := Except.ok.inj walked
  rw [there] at located
  obtain rfl := Except.ok.inj located
  cases readable with
  | false => cases result
  | true => exact (Except.ok.inj result).symm

/-! ## Orders -/

section SameNodes

variable (same : ∀ p, fs'.node? p = fs.node? p)

include same

/-- Where the same stands at each place, paths lead to the same. -/
theorem walk_eq_of_same (follow : Bool) (links : Nat) (place : Place) (names : List String) :
    fs'.walk follow links place names = fs.walk follow links place names := by
  fun_induction fs.walk follow links place names <;> grind [FileSystem.walk]

theorem find_eq_of_same (cwd : Place) (path : Path) : fs'.find cwd path = fs.find cwd path := by
  unfold find resolve
  simp only [walk_eq_of_same same, same]

theorem leadsTo_iff_of_same : LeadsTo fs' cwd dir place ↔ LeadsTo fs cwd dir place := by
  rw [← find_eq_directory_iff, ← find_eq_directory_iff, find_eq_of_same same]

theorem readBytes_eq_of_same (cwd : Place) (path : Path) : fs'.readBytes cwd path = fs.readBytes cwd path := by
  unfold readBytes
  rw [find_eq_of_same same]

theorem readText_eq_of_same (cwd : Place) (path : Path) : fs'.readText cwd path = fs.readText cwd path := by
  unfold readText
  rw [readBytes_eq_of_same same]

theorem isFile_eq_of_same (cwd : Place) (path : Path) : fs'.isFile cwd path = fs.isFile cwd path := by
  unfold isFile
  rw [find_eq_of_same same]

end SameNodes

section Enumeration

variable (order : fs'.nodes.Perm fs.nodes)

include order

theorem IsListed.of_perm (listed : IsListed fs) : IsListed fs' where
  distinct := (order.map (·.1)).nodup_iff.mpr listed.distinct
  named stands inside := listed.named stands (order.mem_iff.mp inside)

/-- What stands at a place does not depend on the order of enumeration. -/
theorem IsListed.node?_of_perm (listed : IsListed fs) (p : Place) : fs'.node? p = fs.node? p := by
  by_cases root : p = []
  · subst root
    rfl
  rw [node?_of_ne_root _ root, node?_of_ne_root _ root]
  refine Option.ext fun node => ?_
  rw [← mem_iff_lookup listed.distinct, ← mem_iff_lookup (listed.of_perm order).distinct]
  exact order.mem_iff

theorem perm_entriesAt (place : Place) : (fs'.entriesAt place).Perm (fs.entriesAt place) := order.filterMap _

end Enumeration

/-- The entries of a directory may be enumerated in any order. -/
theorem exists_enumeration (fs : FileSystem) (place : Place) {entries : List (String × Node)}
    (order : entries.Perm (fs.entriesAt place)) :
    ∃ fs' : FileSystem, fs'.nodes.Perm fs.nodes ∧ fs'.entriesAt place = entries := by
  let stand : String × Node → Place × Node := fun e => (place ++ [e.1], e.2)
  let isEntry : Place × Node → Bool := fun stands => (entryName? place stands.1).isSome
  have named : ∀ name, entryName? place (place ++ [name]) = some name := fun name => entryName?_eq_some_iff.mpr rfl
  have standing : (fs.entriesAt place).map stand = fs.nodes.filter isEntry := by
    rw [entriesAt_eq, List.map_filterMap, ← List.filterMap_eq_filter]
    refine List.filterMap_congr fun stands _ => ?_
    cases e : entryName? place stands.1 with
    | none => simp [isEntry, Option.guard, e]
    | some name => simp [isEntry, Option.guard, e, stand, ← entryName?_eq_some_iff.mp e]
  -- the entries come first, in the order that is asked for, and what else there is keeps its order
  refine ⟨⟨entries.map stand ++ fs.nodes.filter fun stands => !isEntry stands⟩, ?_, ?_⟩
  · have inOrder : (entries.map stand).Perm (fs.nodes.filter isEntry) := standing ▸ order.map stand
    exact (inOrder.append_right _).trans (List.filter_append_perm isEntry fs.nodes)
  · have first : (entries.map stand).filterMap
        (fun stands => (entryName? place stands.1).map fun name => (name, stands.2)) = entries := by
      rw [List.filterMap_map]
      refine (List.filterMap_congr fun e _ => ?_).trans List.filterMap_some
      simp [stand, named]
    have others : (fs.nodes.filter fun stands => !isEntry stands).filterMap
        (fun stands => (entryName? place stands.1).map fun name => (name, stands.2)) = [] := by
      refine List.filterMap_eq_nil_iff.mpr fun stands inside => ?_
      have noEntry := (List.mem_filter.mp inside).2
      simpa [isEntry] using noEntry
    rw [entriesAt_eq, List.filterMap_append, first, others, List.append_nil]

/-- So a directory may be listed in any order of its entries. -/
theorem IsListed.exists_list (listed : IsListed fs) {entries inOrder : List (String × Node)}
    (enumerated : fs.list cwd dir = .ok entries) (order : inOrder.Perm entries) :
    ∃ fs' : FileSystem, fs'.nodes.Perm fs.nodes ∧ fs'.list cwd dir = .ok inOrder := by
  obtain ⟨place, leads, rfl⟩ := exists_leadsTo_of_list enumerated
  obtain ⟨fs', sameNodes, rfl⟩ := exists_enumeration fs place order
  have leads' : LeadsTo fs' cwd dir place := (leadsTo_iff_of_same (listed.node?_of_perm sameNodes)).mpr leads
  exact ⟨fs', sameNodes, leads'.list⟩

end ReleaseGate.FileSystem
