import ReleaseGate.Shell.Session

/-!
# A small machine

A command runner that needs no machine: it knows a shell and the tools of short build scripts, and runs them on a file system. A
program that it does not know cannot be found, and a file is no program.
-/

namespace ReleaseGate.Shell

/-- The depth to which steps of a script may be nested. -/
def fuel : Nat := 20000

/-- The directories in which programs lie. -/
def programDirs : List String := ["/bin", "/usr/bin"]

/-- Whether programs are found by their bare names. -/
def searchesPrograms (environment : Environment) : Bool :=
  match environment.lookup "PATH" with
  | some path => (Text.fields ':' path.toList).any fun dir => programDirs.contains (String.ofList dir)
  | none => true

/-- What an invocation that holds a zero character is refused with. -/
def zeroFault : OsError := .other "nul byte found in provided data"

/-- Whether some part of an invocation holds a zero character. -/
def hasZero (i : Invocation) : Bool :=
  let texts := i.program :: i.directory.text :: i.arguments ++ i.environment.flatMap fun (name, value) => [name, value]
  texts.any fun t => t.toList.contains '\x00'

/-- The bare name of the program that is meant, when there is one. -/
def program? (fs : FileSystem) (dir : Place) (i : Invocation) : Except OsError String :=
  let bare := lastName i.program
  let isKnown := bare == "sh" || (tools.lookup bare).isSome
  if i.program.toList.contains '/' then
    if isKnown && programDirs.any fun d => d ++ "/" ++ bare == i.program then .ok bare
    else
      match fs.find dir ⟨i.program⟩ with
      | .ok _ => .error .permissionDenied
      | .error e => .error e
  else if isKnown && bare == i.program && searchesPrograms i.environment then .ok bare
  else .error .notFound

/-- Runs a program in a directory. -/
def runProgram (fs : FileSystem) (dir : Place) (name : String) (i : Invocation) : CommandResult × FileSystem :=
  let s : Session :=
    { files := fs, dir, name := "sh", bindings := i.environment, exported := i.environment.map (·.1) }
  let ended (flow : Flow) (s : Session) : CommandResult × FileSystem :=
    let status :=
      match flow with
      | .stop status => status
      | _ => .code s.status
    (.ended status s.output s.errorOutput, s.files)
  match name, i.arguments with
  | "sh", "-c" :: text :: rest =>
    let s := { s with name := rest.headD "sh", arguments := rest.drop 1 }
    match parse? text.toList with
    | some commands =>
      let (flow, s) := runList fuel {} commands s
      ended flow s
    | none => ended .next (s.complain {} 2 "Syntax error: end of file unexpected")
  | name, arguments =>
    match tools.lookup name with
    | some tool =>
      let e := tool { dir, environment := i.environment, input := [], arguments } fs
      (.ended (.code e.status) e.output e.errorOutput, e.files)
    | none =>
      let (flow, s) := runNamed fuel {} name arguments s
      ended flow s

/-- Runs an invocation. -/
def run : CommandRunner := fun cwd i fs =>
  if hasZero i then (.notStarted zeroFault, fs)
  else
    match fs.find cwd i.directory with
    | .error e => (.notStarted e, fs)
    | .ok (dir, .directory) =>
      match program? fs dir i with
      | .error e => (.notStarted e, fs)
      | .ok name => runProgram fs dir name i
    | .ok _ => (.notStarted .notADirectory, fs)

end ReleaseGate.Shell
