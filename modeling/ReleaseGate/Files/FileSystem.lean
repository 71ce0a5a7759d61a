import ReleaseGate.Files.OsError
import ReleaseGate.Files.Path
import ReleaseGate.Text.Utf8

/-!
# File systems

A file system says for each place what stands there: a file with its bytes, a directory, or a symbolic link. A place is the list
of names from the root, without links on the way; `resolve` finds the place that a path names, following links, and the
operations read and change what stands there. Entries are enumerated in the order in which they were made, and nothing here
depends on that order.
-/

namespace ReleaseGate

/-- The names from the root to a place. -/
abbrev Place := List String

/-- What stands at a place. -/
inductive Node where
  | file (bytes : List UInt8) (readable : Bool)
  | directory
  | link (target : Path)
  deriving DecidableEq, Repr

/-- What stands at each place but the root, which is a directory. -/
structure FileSystem where
  nodes : List (Place × Node) := []
  deriving Repr

namespace FileSystem

/-- What stands at a place. -/
def node? (fs : FileSystem) (place : Place) : Option Node :=
  if place.isEmpty then some .directory else fs.nodes.lookup place

/-- The file system with something else at a place. -/
def put (fs : FileSystem) (place : Place) (node : Node) : FileSystem :=
  if (fs.nodes.lookup place).isSome then
    ⟨fs.nodes.map fun (p, old) => if p == place then (p, node) else (p, old)⟩
  else ⟨fs.nodes ++ [(place, node)]⟩

/-- Whether a place lies at or below another. -/
def isWithin (place root : Place) : Bool := root.isPrefixOf place

/-- The file system without what stands at or below a place. -/
def dropTree (fs : FileSystem) (place : Place) : FileSystem :=
  ⟨fs.nodes.filter fun (p, _) => !isWithin p place⟩

/-- The name of an entry of a directory, from its place. -/
def entryName? (dir place : Place) : Option String :=
  match Text.afterPrefix? dir place with
  | some [name] => some name
  | _ => none

/-- The entries of the directory at a place, in the order in which they were made. -/
def entriesAt (fs : FileSystem) (dir : Place) : List (String × Node) :=
  fs.nodes.filterMap fun (p, node) => (entryName? dir p).map fun name => (name, node)

/-- The longest name of an entry, in bytes. -/
def maxNameBytes : Nat := 255

/-- The longest path, in bytes. -/
def maxPathBytes : Nat := 4095

/-- The number of links that are followed on one way. -/
def maxLinks : Nat := 40

/-- Walks from a place along some names. The last name may be missing; it is followed when it is a link, if `follow` says so. At
most `links` links are followed. -/
def walk (fs : FileSystem) (follow : Bool) (links : Nat) (place : Place) (names : List String) : Except OsError Place :=
  match names with
  | [] => .ok place
  | name :: rest =>
    if name == ".." then walk fs follow links place.dropLast rest
    else if name.utf8ByteSize > maxNameBytes then .error .nameTooLong
    else
      match fs.node? (place ++ [name]) with
      | none => if rest.isEmpty then .ok (place ++ [name]) else .error .notFound
      | some (.file _ _) => if rest.isEmpty then .ok (place ++ [name]) else .error .notADirectory
      | some .directory => walk fs follow links (place ++ [name]) rest
      | some (.link target) =>
        if rest.isEmpty && !follow then .ok (place ++ [name])
        else
          match links with
          | 0 => .error .tooManyLinks
          | links + 1 => walk fs follow links (if target.isAbsolute then [] else place) (target.steps ++ rest)
termination_by (links, names.length)

/-- The place that a path names, read from a working directory. What the path names need not be there, but the directory that
would hold it is. -/
def resolve (fs : FileSystem) (cwd : Place) (path : Path) (follow : Bool) : Except OsError Place :=
  if path.text.isEmpty then .error .notFound
  else if path.text.toList.contains '\x00' then .error .zeroInPath
  else if path.text.utf8ByteSize > maxPathBytes then .error .nameTooLong
  else
    match walk fs (follow || path.namesDirectory) maxLinks (if path.isAbsolute then [] else cwd) path.steps with
    | .error e => .error e
    | .ok place =>
      match fs.node? place with
      | some (.file _ _) => if path.namesDirectory then .error .notADirectory else .ok place
      | _ => .ok place

/-- What stands where a path leads, links followed. -/
def find (fs : FileSystem) (cwd : Place) (path : Path) : Except OsError (Place × Node) :=
  (fs.resolve cwd path true).bind fun place =>
    match fs.node? place with
    | some node => .ok (place, node)
    | none => .error .notFound

/-- Whether a path leads to something. -/
def isThere (fs : FileSystem) (cwd : Place) (path : Path) : Bool := (fs.find cwd path).isOk

/-- Whether a path leads to a file. -/
def isFile (fs : FileSystem) (cwd : Place) (path : Path) : Bool :=
  match fs.find cwd path with
  | .ok (_, .file _ _) => true
  | _ => false

/-- Whether a path leads to a directory. -/
def isDirectory (fs : FileSystem) (cwd : Place) (path : Path) : Bool :=
  match fs.find cwd path with
  | .ok (_, .directory) => true
  | _ => false

/-- The bytes of the file that a path leads to. -/
def readBytes (fs : FileSystem) (cwd : Place) (path : Path) : Except OsError (List UInt8) :=
  (fs.find cwd path).bind fun (_, node) =>
    match node with
    | .file bytes true => .ok bytes
    | .file _ false => .error .permissionDenied
    | .directory => .error .isADirectory
    | .link _ => .error .tooManyLinks

/-- The text of the file that a path leads to. -/
def readText (fs : FileSystem) (cwd : Place) (path : Path) : Except OsError String :=
  (fs.readBytes cwd path).bind fun bytes =>
    match Text.Utf8.decode bytes with
    | some text => .ok text
    | none => .error .notText

/-- The entries of the directory that a path leads to. -/
def list (fs : FileSystem) (cwd : Place) (path : Path) : Except OsError (List (String × Node)) :=
  (fs.find cwd path).bind fun (place, node) =>
    match node with
    | .directory => .ok (fs.entriesAt place)
    | _ => .error .notADirectory

/-- The file system in which the file that a path leads to has the given bytes, made if it was not there. -/
def writeBytes (fs : FileSystem) (cwd : Place) (path : Path) (bytes : List UInt8) : Except OsError FileSystem :=
  (fs.resolve cwd path true).bind fun place =>
    match fs.node? place with
    | some .directory => .error .isADirectory
    | some (.file _ readable) => .ok (fs.put place (.file bytes readable))
    | _ => if path.namesDirectory then .error .isADirectory else .ok (fs.put place (.file bytes true))

/-- The file system with bytes added at the end of the file that a path leads to, which is made if it was not there. -/
def appendBytes (fs : FileSystem) (cwd : Place) (path : Path) (bytes : List UInt8) : Except OsError FileSystem :=
  (fs.resolve cwd path true).bind fun place =>
    match fs.node? place with
    | some .directory => .error .isADirectory
    | some (.file old readable) => .ok (fs.put place (.file (old ++ bytes) readable))
    | _ => if path.namesDirectory then .error .isADirectory else .ok (fs.put place (.file bytes true))

/-- The file system with a new directory. The directory that is to hold it may have been removed since it became the working
directory. -/
def makeDirectory (fs : FileSystem) (cwd : Place) (path : Path) : Except OsError FileSystem :=
  (fs.resolve cwd path false).bind fun place =>
    match fs.node? place with
    | some _ => .error .alreadyExists
    | none => if fs.node? place.dropLast == some .directory then .ok (fs.put place .directory) else .error .notFound

/-- Makes a directory and the directories on the way to it, as far as they are not there; `depth` bounds how many are made. What
was made stays when something fails. -/
def makeDirectoriesUpTo (fs : FileSystem) (cwd : Place) (path : Path) : Nat → Except OsError Unit × FileSystem
  | 0 => (.error (.other "failed to create whole tree"), fs)
  | depth + 1 =>
    if path.text.isEmpty then (.ok (), fs)
    else
      match fs.makeDirectory cwd path with
      | .ok made => (.ok (), made)
      | .error .notFound =>
        match path.parent? with
        | none => (.error (.other "failed to create whole tree"), fs)
        | some dir =>
          match makeDirectoriesUpTo fs cwd dir depth with
          | (.error e, left) => (.error e, left)
          | (.ok (), fs) =>
            match fs.makeDirectory cwd path with
            | .ok made => (.ok (), made)
            | .error e => (if fs.isDirectory cwd path then .ok () else .error e, fs)
      | .error e => (if fs.isDirectory cwd path then .ok () else .error e, fs)

/-- Makes a directory and the directories on the way to it, as far as they are not there, or what can be made of them. -/
def attemptDirectories (fs : FileSystem) (cwd : Place) (path : Path) : Except OsError Unit × FileSystem :=
  fs.makeDirectoriesUpTo cwd path (path.text.length + 1)

/-- The file system with a directory and the directories on the way to it, as far as they are not there. -/
def makeDirectories (fs : FileSystem) (cwd : Place) (path : Path) : Except OsError FileSystem :=
  match fs.attemptDirectories cwd path with
  | (.ok (), fs) => .ok fs
  | (.error e, _) => .error e

/-- The file system without the directory that a path names and all that is below it. A link is removed itself. -/
def removeDirectory (fs : FileSystem) (cwd : Place) (path : Path) : Except OsError FileSystem :=
  (fs.resolve cwd path false).bind fun place =>
    match fs.node? place with
    | none => .error .notFound
    | some (.file _ _) => .error .notADirectory
    | some _ => .ok (fs.dropTree place)

/-- The file system without what a path names and all that is below it. A link is removed itself. -/
def remove (fs : FileSystem) (cwd : Place) (path : Path) : Except OsError FileSystem :=
  (fs.resolve cwd path false).bind fun place =>
    match fs.node? place with
    | none => .error .notFound
    | some _ => .ok (fs.dropTree place)

/-- The file system with a new symbolic link. -/
def makeLink (fs : FileSystem) (cwd : Place) (path target : Path) : Except OsError FileSystem :=
  (fs.resolve cwd path false).bind fun place =>
    match fs.node? place with
    | some _ => .error .alreadyExists
    | none => .ok (fs.put place (.link target))

/-- The file system that holds one directory and the directories on the way to it. -/
def ofRoot (place : Place) : FileSystem :=
  ⟨(List.range place.length).map fun i => (place.take (i + 1), .directory)⟩

@[simp] theorem node?_root (fs : FileSystem) : fs.node? [] = some .directory := rfl

theorem node?_of_ne_root (fs : FileSystem) {place : Place} (below : place ≠ []) :
    fs.node? place = fs.nodes.lookup place := by
  simp [node?, below]

/-- A path of one name leads to the file of that name in the directory from which it is read. -/
theorem readBytes_of_step {fs : FileSystem} {cwd : Place} {path : Path} {bytes : List UInt8} (name : String)
    (steps : path.steps = [name])
    (ordinary : path.text.isEmpty = false ∧ path.text.toList.contains '\x00' = false ∧ path.text.utf8ByteSize ≤ maxPathBytes ∧
      path.namesDirectory = false ∧ name ≠ ".." ∧ name.utf8ByteSize ≤ maxNameBytes)
    (there : fs.node? ((if path.isAbsolute then [] else cwd) ++ [name]) = some (.file bytes true)) :
    fs.readBytes cwd path = .ok bytes := by
  obtain ⟨inhabited, noZero, short, noDirectory, noParent, shortName⟩ := ordinary
  have walked : ∀ follow, fs.walk follow maxLinks (if path.isAbsolute then [] else cwd) [name] =
      .ok ((if path.isAbsolute then [] else cwd) ++ [name]) := by
    intro follow
    rw [walk, if_neg (by simpa using noParent), if_neg (by omega), there]
    rfl
  have resolved : fs.resolve cwd path true = .ok ((if path.isAbsolute then [] else cwd) ++ [name]) := by
    unfold resolve
    rw [inhabited, noZero, steps, walked]
    simp only [there, noDirectory]
    rw [if_neg (by decide), if_neg (by decide), if_neg (by omega), if_neg (by decide)]
  unfold readBytes find
  rw [resolved]
  simp only [Except.bind, there]

/-- At a place below the root stands what was put there last. -/
theorem node?_put (fs : FileSystem) {place : Place} (below : place ≠ []) (p : Place) (node : Node) :
    (fs.put place node).node? p = if p = place then some node else fs.node? p := by
  have replaced : ∀ nodes : List (Place × Node),
      (nodes.map fun (q, old) => if q == place then (q, node) else (q, old)).lookup p =
        if p = place then (nodes.lookup p).map fun _ => node else nodes.lookup p := by
    intro nodes
    induction nodes with
    | nil => simp
    | cons head rest ih =>
      obtain ⟨q, old⟩ := head
      rw [List.map_cons]
      by_cases here : p = q
      · subst here
        by_cases same : p = place <;> simp [same]
      · have elsewhere : (p == q) = false := beq_false_of_ne here
        by_cases changed : q = place
        · simpa [List.lookup_cons, elsewhere, changed, beq_false_of_ne (changed ▸ here)] using ih
        · simpa [List.lookup_cons, elsewhere, changed] using ih
  by_cases root : p = []
  · subst root
    simp [Ne.symm below]
  rw [node?_of_ne_root _ root, node?_of_ne_root _ root, put]
  split
  next there =>
    rw [replaced]
    by_cases same : p = place
    · obtain ⟨old, stood⟩ := Option.isSome_iff_exists.mp there
      simp [same, stood]
    · simp [same]
  next missing =>
    have none_there := Option.not_isSome_iff_eq_none.mp missing
    by_cases same : p = place
    · simp [same, List.lookup_append, none_there]
    · simp [List.lookup_append, List.lookup_cons, beq_false_of_ne same, same]

/-- Nothing stands any more at and below a place that was dropped, and all else is as it was. -/
theorem node?_dropTree (fs : FileSystem) (place : Place) {p : Place} (below : p ≠ []) :
    (fs.dropTree place).node? p = if isWithin p place then none else fs.node? p := by
  rw [node?_of_ne_root _ below, node?_of_ne_root _ below, dropTree]
  induction fs.nodes with
  | nil => simp
  | cons head rest ih =>
    obtain ⟨q, old⟩ := head
    rw [List.filter_cons, List.lookup_cons]
    by_cases here : p = q
    · subst here
      by_cases dropped : isWithin p place
      · simpa [dropped] using ih
      · simp [dropped]
    · have elsewhere : (p == q) = false := beq_false_of_ne here
      by_cases dropped : isWithin q place
      · simpa [dropped, elsewhere] using ih
      · simpa [dropped, elsewhere, List.lookup_cons] using ih

end FileSystem

end ReleaseGate
