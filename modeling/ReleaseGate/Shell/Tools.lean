import ReleaseGate.Files.Sha256
import ReleaseGate.Process
import ReleaseGate.Shell.Format

/-!
# Tools

The small tools that build scripts call, as functions on a file system. A tool gets the directory it runs in, its variables, its
input and its arguments, and has a status and two streams of output; it complains about each argument that it cannot work on,
and goes on with the next.
-/

namespace ReleaseGate.Shell

/-- What a tool runs with. -/
structure ToolCall where
  dir : Place
  environment : Environment
  input : List UInt8
  arguments : List String

/-- What comes of a tool. -/
structure Effect where
  files : FileSystem
  status : Nat := 0
  output : List UInt8 := []
  errorOutput : List UInt8 := []

/-- A tool. -/
abbrev Tool := ToolCall → FileSystem → Effect

namespace Effect

/-- More output. -/
def print (e : Effect) (bytes : List UInt8) : Effect := { e with output := e.output ++ bytes }

/-- A complaint, which makes the status a failure. -/
def complain (e : Effect) (line : String) : Effect :=
  { e with status := 1, errorOutput := e.errorOutput ++ Text.Utf8.encode (line ++ "\n") }

/-- A change of the files, or a complaint about why there is none. -/
def change (e : Effect) (complaint : String) : Except OsError FileSystem → Effect
  | .ok files => { e with files }
  | .error error => e.complain s!"{complaint}: {error.phrase}"

end Effect

namespace ToolCall

/-- The arguments that are no options. -/
def operands (c : ToolCall) : List String :=
  c.arguments.filter fun a => !(a.startsWith "-" && 1 < a.length)

/-- Whether a letter is among the options. -/
def hasOption (c : ToolCall) (letter : Char) : Bool :=
  c.arguments.any fun a => a.startsWith "-" && !a.startsWith "--" && a.toList.contains letter

end ToolCall

/-- The bytes of the files of a call one after another, or its input when there are none. -/
def readOperands (tool : String) (c : ToolCall) (operands : List String) (fs : FileSystem) : Effect × List UInt8 :=
  let names := if operands.isEmpty then ["-"] else operands
  names.foldl
    (fun (e, bytes) name =>
      if name == "-" then (e, bytes ++ c.input)
      else
        match fs.readBytes c.dir ⟨name⟩ with
        | .ok more => (e, bytes ++ more)
        | .error error => (e.complain s!"{tool}: {name}: {error.phrase}", bytes))
    ({ files := fs }, [])

/-- Prints files. -/
def cat : Tool := fun c fs =>
  let (e, bytes) := readOperands "cat" c c.operands fs
  e.print bytes

/-- Prints its arguments, without a newline after them when the first says so. -/
def echo (escapes : Bool) : Tool := fun c fs =>
  let (newline, words) :=
    match c.arguments with
    | "-n" :: words => (false, words)
    | words => (true, words)
  let (escapes, words) :=
    match escapes, words with
    | false, "-e" :: words => (true, words)
    | escapes, words => (escapes, words)
  let text := Text.joinText " " words
  let (bytes, goesOn) := if escapes then unescape true 0 text.toList else (Text.Utf8.encode text, true)
  { files := fs, output := if newline && goesOn then bytes ++ [10] else bytes }

/-- Prints a format. -/
def printf : Tool := fun c fs =>
  match c.arguments with
  | "--" :: text :: arguments => { files := fs, output := format text arguments }
  | text :: arguments => { files := fs, output := format text arguments }
  | [] => { files := fs, status := 2, errorOutput := Text.Utf8.encode "printf: usage: printf format [arg ...]\n" }

/-- Makes directories. -/
def mkdir : Tool := fun c fs =>
  c.operands.foldl
    (fun e name =>
      e.change s!"mkdir: cannot create directory '{name}'"
        (if c.hasOption 'p' then e.files.makeDirectories c.dir ⟨name⟩ else e.files.makeDirectory c.dir ⟨name⟩))
    { files := fs }

/-- Removes files, and with an option trees. -/
def rm : Tool := fun c fs =>
  let trees := c.hasOption 'r' || c.hasOption 'R'
  c.operands.foldl
    (fun e name =>
      let path : Path := ⟨name⟩
      match e.files.resolve c.dir path false with
      | .error .notFound => if c.hasOption 'f' then e else e.complain s!"rm: cannot remove '{name}': No such file or directory"
      | .error error => e.complain s!"rm: cannot remove '{name}': {error.phrase}"
      | .ok place =>
        match e.files.node? place with
        | none => if c.hasOption 'f' then e else e.complain s!"rm: cannot remove '{name}': No such file or directory"
        | some .directory =>
          if trees then { e with files := e.files.dropTree place } else e.complain s!"rm: cannot remove '{name}': Is a directory"
        | some _ => { e with files := e.files.dropTree place })
    { files := fs }

/-- Removes empty directories. -/
def rmdir : Tool := fun c fs =>
  c.operands.foldl
    (fun e name =>
      let complaint := s!"rmdir: failed to remove '{name}'"
      match e.files.list c.dir ⟨name⟩ with
      | .ok [] => e.change complaint (e.files.removeDirectory c.dir ⟨name⟩)
      | .ok _ => e.complain s!"{complaint}: Directory not empty"
      | .error error => e.complain s!"{complaint}: {error.phrase}")
    { files := fs }

/-- Makes empty files, where there is nothing. -/
def touch : Tool := fun c fs =>
  c.operands.foldl
    (fun e name =>
      if e.files.isThere c.dir ⟨name⟩ then e
      else e.change s!"touch: cannot touch '{name}'" (e.files.writeBytes c.dir ⟨name⟩ []))
    { files := fs }

/-- The last name of a path. -/
def lastName (name : String) : String := ((Path.steps ⟨name⟩).getLast?).getD name

/-- Where something goes that is put under a name: into the directory of that name, if it is one. -/
def destination (fs : FileSystem) (dir : Place) (source target : String) : Path :=
  if fs.isDirectory dir ⟨target⟩ then Path.entry ⟨target⟩ (lastName source) else ⟨target⟩

/-- The sources and the target of a call. -/
def sourcesAndTarget (c : ToolCall) : List String × String := (c.operands.dropLast, c.operands.getLastD "")

/-- The file system with a copy of what stands at or below a place. -/
def copyTree (fs : FileSystem) (source target : Place) : FileSystem :=
  fs.nodes.foldl
    (fun copy (p, node) => if FileSystem.isWithin p source then copy.put (target ++ p.drop source.length) node else copy) fs

/-- Copies files, and with an option trees. -/
def cp : Tool := fun c fs =>
  let (sources, target) := sourcesAndTarget c
  let trees := c.hasOption 'r' || c.hasOption 'R' || c.hasOption 'a'
  sources.foldl
    (fun e name =>
      let path := destination e.files c.dir name target
      match e.files.find c.dir ⟨name⟩ with
      | .error error => e.complain s!"cp: cannot stat '{name}': {error.phrase}"
      | .ok (place, .directory) =>
        if trees then
          match e.files.resolve c.dir path false with
          | .ok goal => { e with files := copyTree e.files place goal }
          | .error error => e.complain s!"cp: cannot create directory '{path}': {error.phrase}"
        else e.complain s!"cp: -r not specified; omitting directory '{name}'"
      | .ok (_, .file bytes _) => e.change s!"cp: cannot create regular file '{path}'" (e.files.writeBytes c.dir path bytes)
      | .ok _ => e)
    { files := fs }

/-- Gives files and trees other names. -/
def mv : Tool := fun c fs =>
  let (sources, target) := sourcesAndTarget c
  sources.foldl
    (fun e name =>
      let path := destination e.files c.dir name target
      match e.files.resolve c.dir ⟨name⟩ false, e.files.resolve c.dir path false with
      | .ok place, .ok goal =>
        if (e.files.node? place).isNone then e.complain s!"mv: cannot stat '{name}': No such file or directory"
        else if place == goal then e
        else { e with files := (copyTree (e.files.dropTree goal) place goal).dropTree place }
      | .error error, _ => e.complain s!"mv: cannot stat '{name}': {error.phrase}"
      | _, .error error => e.complain s!"mv: cannot move '{name}' to '{path}': {error.phrase}")
    { files := fs }

/-- Makes symbolic links. -/
def ln : Tool := fun c fs =>
  let (sources, target) := sourcesAndTarget c
  sources.foldl
    (fun e name =>
      let path := destination e.files c.dir name target
      let files :=
        if c.hasOption 'f' then
          match e.files.remove c.dir path with
          | .ok files => files
          | .error _ => e.files
        else e.files
      Effect.change { e with files } s!"ln: failed to create symbolic link '{path}'" (files.makeLink c.dir path ⟨name⟩))
    { files := fs }

/-- Changes what may be done with files. All that scripts ask for may be done here already, so only missing files matter. -/
def chmod : Tool := fun c fs =>
  (c.operands.drop 1).foldl
    (fun e name =>
      match fs.find c.dir ⟨name⟩ with
      | .ok _ => e
      | .error error => e.complain s!"chmod: cannot access '{name}': {error.phrase}")
    { files := fs }

/-- A count of lines or bytes, from an option, and the operands. -/
def countOption (standard : Nat) : List String → (Char × Nat) × List String
  | "-n" :: n :: rest => (('n', n.toNat?.getD standard), rest)
  | "-c" :: n :: rest => (('c', n.toNat?.getD standard), rest)
  | first :: rest =>
    match first.toList with
    | '-' :: 'n' :: digits => (('n', digitsNumber digits), rest)
    | '-' :: 'c' :: digits => (('c', digitsNumber digits), rest)
    | '-' :: d :: digits => if d.isDigit then (('n', digitsNumber (d :: digits)), rest) else (('n', standard), first :: rest)
    | _ => (('n', standard), first :: rest)
  | [] => (('n', standard), [])

/-- Bytes cut into lines, each with the newline at its end. -/
def byteLines : List UInt8 → List (List UInt8)
  | [] => []
  | b :: rest =>
    match byteLines rest with
    | [] => [[b]]
    | line :: more => if b == 10 then [b] :: line :: more else (b :: line) :: more

/-- Prints the beginning or the end of files. -/
def excerpt (tool : String) (ofLines : Nat → List (List UInt8) → List (List UInt8))
    (ofBytes : Nat → List UInt8 → List UInt8) : Tool :=
  fun c fs =>
    let ((unit, n), operands) := countOption 10 c.arguments
    let (e, bytes) := readOperands tool c operands fs
    e.print (if unit == 'c' then ofBytes n bytes else (ofLines n (byteLines bytes)).flatten)

/-- Prints the beginning of files. -/
def head : Tool := excerpt "head" (fun n lines => lines.take n) fun n bytes => bytes.take n

/-- Prints the end of files. -/
def tail : Tool :=
  excerpt "tail" (fun n lines => lines.drop (lines.length - n)) fun n bytes => bytes.drop (bytes.length - n)

/-- Prints a sequence of integers. -/
def seq : Tool := fun c fs =>
  let numbers := (c.arguments.filterMap fun a => integer? a.toList)
  let (first, step, last) : Int × Int × Int :=
    match numbers with
    | [last] => (1, 1, last)
    | [first, last] => (first, 1, last)
    | [first, step, last] => (first, step, last)
    | _ => (1, 1, 0)
  let count := if step == 0 then 0 else ((last - first) / step + 1).toNat
  let lines := (List.range count).map fun (i : Nat) => s!"{first + step * (i : Nat)}\n"
  { files := fs, output := Text.Utf8.encode (String.join lines) }

/-- Prints the last name of a path, without a given ending. -/
def basename : Tool := fun c fs =>
  let name := lastName (c.operands.headD "")
  let ending := (c.operands.getD 1 "").toList
  let name := if ending == name.toList then name else ((Text.beforeSuffix? ending name.toList).map String.ofList).getD name
  { files := fs, output := Text.Utf8.encode (name ++ "\n") }

/-- Prints the path of the directory that holds what a path names. -/
def dirname : Tool := fun c fs =>
  let dir := ((Path.parent? ⟨c.operands.headD ""⟩).map Path.text).getD "/"
  { files := fs, output := Text.Utf8.encode ((if dir.isEmpty then "." else dir) ++ "\n") }

/-- The names in a directory, in order. -/
def sortedNames (entries : List (String × Node)) : List String := (entries.map (·.1)).mergeSort fun a b => a ≤ b

/-- Prints the names in directories. -/
def ls : Tool := fun c fs =>
  let names := if c.operands.isEmpty then ["."] else c.operands
  names.foldl
    (fun e name =>
      match fs.find c.dir ⟨name⟩ with
      | .error error => { e.complain s!"ls: cannot access '{name}': {error.phrase}" with status := 2 }
      | .ok (place, .directory) =>
        let shown := (sortedNames (fs.entriesAt place)).filter fun entry => c.hasOption 'a' || !entry.startsWith "."
        e.print (Text.Utf8.encode (String.join (shown.map fun entry => entry ++ "\n")))
      | .ok _ => e.print (Text.Utf8.encode (name ++ "\n")))
    { files := fs }

/-- Prints the working directory. -/
def pwd : Tool := fun c fs => { files := fs, output := Text.Utf8.encode ("/" ++ Text.joinText "/" c.dir ++ "\n") }

/-- Prints variables. -/
def printenv : Tool := fun c fs =>
  match c.operands with
  | [] => { files := fs, output := Text.Utf8.encode (String.join (c.environment.map fun (name, value) => s!"{name}={value}\n")) }
  | names =>
    names.foldl
      (fun e name =>
        match c.environment.lookup name with
        | some value => e.print (Text.Utf8.encode (value ++ "\n"))
        | none => { e with status := 1 })
      { files := fs }

/-- Prints the digests of files. -/
def sha256sum : Tool := fun c fs =>
  let names := if c.operands.isEmpty then ["-"] else c.operands
  names.foldl
    (fun e name =>
      match if name == "-" then .ok c.input else fs.readBytes c.dir ⟨name⟩ with
      | .ok bytes => e.print (Text.Utf8.encode s!"{Sha256.hexDigest bytes}  {name}\n")
      | .error error => e.complain s!"sha256sum: {name}: {error.phrase}")
    { files := fs }

/-- Counts lines or bytes of its input. -/
def wc : Tool := fun c fs =>
  let (e, bytes) := readOperands "wc" c c.operands fs
  let count := if c.hasOption 'l' then (bytes.filter (· == 10)).length else bytes.length
  let names := Text.joinText " " c.operands
  e.print (Text.Utf8.encode (if c.operands.isEmpty then s!"{count}\n" else s!"{count} {names}\n"))

/-- Whether what a test states about two texts holds. -/
def comparison? (a operator b : String) : Option Bool :=
  let number (s : String) : Option Int := integer? s.toList
  let compare (p : Int → Int → Bool) : Option Bool := (number a).bind fun m => (number b).map fun n => p m n
  match operator with
  | "=" => some (a == b)
  | "==" => some (a == b)
  | "!=" => some (a != b)
  | "-eq" => compare (· == ·)
  | "-ne" => compare (· != ·)
  | "-lt" => compare fun m n => m < n
  | "-le" => compare fun m n => m ≤ n
  | "-gt" => compare fun m n => n < m
  | "-ge" => compare fun m n => n ≤ m
  | _ => none

/-- Whether what a test states about a text or a file holds. -/
def property? (fs : FileSystem) (dir : Place) (operator a : String) : Option Bool :=
  match operator with
  | "-n" => some !a.isEmpty
  | "-z" => some a.isEmpty
  | "-e" => some (fs.isThere dir ⟨a⟩)
  | "-f" => some (fs.isFile dir ⟨a⟩)
  | "-d" => some (fs.isDirectory dir ⟨a⟩)
  | "-r" => some (fs.isThere dir ⟨a⟩)
  | "-w" => some (fs.isThere dir ⟨a⟩)
  | "-x" => some (fs.isDirectory dir ⟨a⟩)
  | "-s" => some ((fs.readBytes dir ⟨a⟩).toOption.any fun bytes => !bytes.isEmpty)
  | "-L" =>
    match fs.resolve dir ⟨a⟩ false with
    | .ok place =>
      match fs.node? place with
      | some (.link _) => some true
      | _ => some false
    | .error _ => some false
  | _ => none

/-- Whether a test holds. -/
def holds? (fs : FileSystem) (dir : Place) : List String → Option Bool
  | [] => some false
  | [a] => some !a.isEmpty
  | "!" :: rest => (holds? fs dir rest).map (!·)
  | [operator, a] => property? fs dir operator a
  | a :: operator :: b :: "-a" :: rest =>
    (comparison? a operator b).bind fun p => (holds? fs dir rest).map fun q => p && q
  | a :: operator :: b :: "-o" :: rest =>
    (comparison? a operator b).bind fun p => (holds? fs dir rest).map fun q => p || q
  | [a, operator, b] => comparison? a operator b
  | _ => none

/-- Tests a statement. -/
def test : Tool := fun c fs =>
  match holds? fs c.dir c.arguments with
  | some true => { files := fs }
  | some false => { files := fs, status := 1 }
  | none => { files := fs, status := 2, errorOutput := Text.Utf8.encode "test: unexpected operator\n" }

/-- Tests a statement between brackets. -/
def bracket : Tool := fun c fs =>
  if c.arguments.getLast? == some "]" then test { c with arguments := c.arguments.dropLast } fs
  else { files := fs, status := 2, errorOutput := Text.Utf8.encode "[: missing ]\n" }

/-- The tools by their names. -/
def tools : List (String × Tool) :=
  [("cat", cat), ("echo", echo false), ("printf", printf), ("true", fun _ fs => { files := fs }),
   ("false", fun _ fs => { files := fs, status := 1 }), ("sleep", fun _ fs => { files := fs }), ("mkdir", mkdir), ("rm", rm),
   ("rmdir", rmdir), ("touch", touch), ("cp", cp), ("mv", mv), ("ln", ln), ("chmod", chmod), ("head", head), ("tail", tail),
   ("seq", seq), ("basename", basename), ("dirname", dirname), ("ls", ls), ("pwd", pwd), ("printenv", printenv),
   ("env", printenv), ("sha256sum", sha256sum), ("wc", wc), ("test", test), ("[", bracket)]

end ReleaseGate.Shell
