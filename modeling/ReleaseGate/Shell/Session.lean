import ReleaseGate.Shell.Arithmetic
import ReleaseGate.Shell.Tools

/-!
# Running scripts

A session runs the commands of a script one after another over a file system. Fuel bounds the number of nested steps; a script
that needs more is ended like one that a signal kills for the time it takes.
-/

namespace ReleaseGate.Shell

/-- Where a stream of output goes. -/
inductive Sink where
  | output
  | errorOutput
  | file (place : Place)

/-- Where the two streams of output go. -/
structure Sinks where
  output : Sink := .output
  errorOutput : Sink := .errorOutput

/-- The state of a running script. -/
structure Session where
  files : FileSystem
  dir : Place
  /-- How messages name the script. -/
  name : String
  /-- The arguments of the script. -/
  arguments : List String := []
  bindings : Environment
  /-- The variables that tools see. -/
  exported : List String
  /-- The status of the last command. -/
  status : Nat := 0
  /-- Whether a command that fails ends the script. -/
  stopsOnFailure : Bool := false
  input : List UInt8 := []
  output : List UInt8 := []
  errorOutput : List UInt8 := []

/-- How a script goes on after a command. -/
inductive Flow where
  | next
  /-- So many loops are left, the last of them for its next turn if `again` says so. -/
  | leave (loops : Nat) (again : Bool)
  | stop (s : ExitStatus)

namespace Session

/-- The number by which a script knows its own process. -/
def processNumber : Nat := 4242

/-- Writes to a sink. -/
def write (s : Session) (sink : Sink) (bytes : List UInt8) : Session :=
  match sink with
  | .output => { s with output := s.output ++ bytes }
  | .errorOutput => { s with errorOutput := s.errorOutput ++ bytes }
  | .file place =>
    match s.files.node? place with
    | some (.file old readable) => { s with files := s.files.put place (.file (old ++ bytes) readable) }
    | _ => s

/-- A message of the shell itself, on the stream of errors, with a status. -/
def complain (s : Session) (sinks : Sinks) (status : Nat) (text : String) : Session :=
  { s.write sinks.errorOutput (Text.Utf8.encode s!"{s.name}: 1: {text}\n") with status }

/-- The value of a variable or a parameter. -/
def value? (s : Session) (name : String) : Option String :=
  match name with
  | "$" => some (toString processNumber)
  | "?" => some (toString s.status)
  | "#" => some (toString s.arguments.length)
  | "0" => some s.name
  | "@" => some (Text.joinText " " s.arguments)
  | "*" => some (Text.joinText " " s.arguments)
  | name =>
    match name.toNat? with
    | some n => s.arguments[n - 1]?
    | none => s.bindings.lookup name

/-- Gives a variable a value. -/
def assign (s : Session) (name value : String) : Session :=
  { s with bindings := (name, value) :: s.bindings.filter fun v => v.1 != name }

/-- The variables that tools see. -/
def environment (s : Session) : Environment := s.bindings.filter fun v => s.exported.contains v.1

/-- The value of an arithmetic expression. -/
def calculate (s : Session) (expression : List Char) : Option Int :=
  evaluate? (fun name => ((s.value? name).bind fun v => integer? v.toList).getD 0) expression

end Session

/-- Fields on their way to being words: those that are complete, and the one that is open, in which each character remembers
whether it was quoted. -/
structure Fields where
  complete : List (List (Char × Bool)) := []
  current : Option (List (Char × Bool)) := none

namespace Fields

/-- More text for the open field. -/
def add (f : Fields) (quoted : Bool) (s : List Char) : Fields :=
  { f with current := some (f.current.getD [] ++ s.map fun c => (c, quoted)) }

/-- Closes the open field. -/
def close (f : Fields) : Fields :=
  match f.current with
  | some field => { complete := f.complete ++ [field], current := none }
  | none => f

/-- Text that came of an expansion outside quotes: its blanks separate fields. -/
def addSplit (f : Fields) (s : List Char) : Fields :=
  s.foldl (fun f c => if c == ' ' || c == '\t' || c == '\n' then f.close else f.add false [c]) f

end Fields

/-- The wild cards of a name, in which only characters that were not quoted stand for others. -/
def matchesName : List (Char × Bool) → List Char → Bool
  | [], s => s.isEmpty
  | ('*', false) :: rest, [] => matchesName rest []
  | ('*', false) :: rest, c :: s => matchesName rest (c :: s) || matchesName (('*', false) :: rest) s
  | _ :: _, [] => false
  | ('?', false) :: rest, _ :: s => matchesName rest s
  | (p, _) :: rest, c :: s => p == c && matchesName rest s

/-- Whether a field has a wild card. -/
def hasWildcard (field : List (Char × Bool)) : Bool := field.any fun (c, quoted) => !quoted && (c == '*' || c == '?')

/-- The text of a field. -/
def fieldText (field : List (Char × Bool)) : String := String.ofList (field.map (·.1))

/-- The words that a field stands for: the names that its wild cards match in their directory, or itself when there are none. -/
def expandWildcards (fs : FileSystem) (dir : Place) (field : List (Char × Bool)) : List String :=
  if !hasWildcard field then [fieldText field]
  else
    let name := (field.reverse.takeWhile fun (c, _) => c != '/').reverse
    let before := field.take (field.length - name.length)
    let parent := if before.isEmpty then "." else fieldText before
    let entries := if hasWildcard before then [] else ((fs.list dir ⟨parent⟩).toOption).getD []
    let names := (sortedNames entries).filter fun n =>
      matchesName name n.toList && (!n.startsWith "." || name.head?.any fun (c, _) => c == '.')
    if names.isEmpty then [fieldText field] else names.map fun n => fieldText before ++ n

/-- The numbers of signals by their names. -/
def signal? (name : String) : Option Nat :=
  match name.toNat? with
  | some n => some n
  | none => ExitStatus.signalNames.findSome? fun (n, full) => if full == name || full == "SIG" ++ name then some n else none

/-- The signal that a call of the tool for signals sends, and to which processes. -/
def killCall : List String → Option (Nat × List String)
  | "-s" :: name :: processes => (signal? name).map fun n => (n, processes)
  | first :: processes =>
    match first.toList with
    | '-' :: name => (signal? (String.ofList name)).map fun n => (n, processes)
    | _ => some (15, first :: processes)
  | [] => none

/-- Output without the newlines at its end. -/
def withoutEndNewlines (bytes : List UInt8) : List UInt8 := (bytes.reverse.dropWhile (· == 10)).reverse

/-- Ends a script with the status that is given, or else with that of the last command. -/
def leaveScript (sinks : Sinks) (name : String) (arguments : List String) (s : Session) : Flow × Session :=
  match arguments with
  | [] => (.stop (.code s.status), s)
  | a :: _ =>
    if !a.isEmpty && a.toList.all Char.isDigit then (.stop (.code ((a.toNat?.getD 0) % 256)), s)
    else (.stop (.code 2), s.complain sinks 2 s!"{name}: Illegal number: {a}")

mutual

/-- The fields of some pieces of a word. -/
def expandPieces (fuel : Nat) (sinks : Sinks) (pieces : List Piece) (f : Fields) (s : Session) : Fields × Session :=
  match fuel with
  | 0 => (f, s)
  | fuel + 1 =>
    match pieces with
    | [] => (f, s)
    | .text quoted text :: rest => expandPieces fuel sinks rest (f.add quoted text) s
    | .parameter true "@" _ _ :: rest =>
      let f :=
        match s.arguments with
        | [] => f
        | a :: more => more.foldl (fun f a => f.close.add true a.toList) (f.add true a.toList)
      expandPieces fuel sinks rest f s
    | .parameter quoted name emptyToo otherwise :: rest =>
      let value := (s.value? name).filter fun v => !(emptyToo && v.isEmpty)
      match value, otherwise with
      | none, some text =>
        let (pieces, _) := (readPieces (text.length + 1) text).getD ([], [])
        let (f, s) := expandPieces fuel sinks pieces f s
        expandPieces fuel sinks rest f s
      | value, _ =>
        let text := (value.getD "").toList
        expandPieces fuel sinks rest (if quoted then f.add true text else f.addSplit text) s
    | .arithmetic quoted expression :: rest =>
      let text := (((s.calculate expression).map toString).getD "").toList
      expandPieces fuel sinks rest (if quoted then f.add true text else f.addSplit text) s
    | .script quoted text :: rest =>
      let inner := { s with output := [] }
      let (_, inner) := runIsolated fuel { output := .output, errorOutput := sinks.errorOutput } ((parse? text).getD []) inner
      let printed := (Text.Utf8.decodeLossy (withoutEndNewlines inner.output)).toList
      let s := { s with files := inner.files, status := inner.status, errorOutput := inner.errorOutput }
      expandPieces fuel sinks rest (if quoted then f.add true printed else f.addSplit printed) s

/-- The words that some words stand for. -/
def expandWords (fuel : Nat) (sinks : Sinks) (words : List Word) (s : Session) : List String × Session :=
  match fuel with
  | 0 => ([], s)
  | fuel + 1 =>
    match words with
    | [] => ([], s)
    | w :: rest =>
      let (f, s) := expandPieces fuel sinks w {} s
      let here := f.close.complete.flatMap (expandWildcards s.files s.dir)
      let (more, s) := expandWords fuel sinks rest s
      (here ++ more, s)

/-- The one text that a word stands for, where nothing is split. -/
def expandText (fuel : Nat) (sinks : Sinks) (w : Word) (s : Session) : String × Session :=
  let whole := w.map fun
    | .text _ text => .text true text
    | .parameter _ name emptyToo otherwise => .parameter true name emptyToo otherwise
    | .arithmetic _ expression => .arithmetic true expression
    | .script _ text => .script true text
  match fuel with
  | 0 => ("", s)
  | fuel + 1 =>
    let (f, s) := expandPieces fuel sinks whole {} s
    (Text.joinText " " (f.close.complete.map fieldText), s)

/-- The sinks after some redirections; `none` when one of them fails. -/
def redirect (fuel : Nat) (sinks : Sinks) (redirections : List Redirection) (s : Session) : Option Sinks × Session :=
  match fuel with
  | 0 => (none, s)
  | fuel + 1 =>
    match redirections with
    | [] => (some sinks, s)
    | r :: rest =>
      let (target, s) := expandText fuel sinks r.target s
      let path : Path := ⟨target⟩
      let into (sink : Sink) : Sinks :=
        if r.stream == 2 then { sinks with errorOutput := sink }
        else if r.stream == 1 then { sinks with output := sink }
        else sinks
      let refuse (e : OsError) : Option Sinks × Session :=
        let reason := if e == .notFound then "Directory nonexistent" else e.phrase
        (none, s.complain sinks 2 s!"cannot create {target}: {reason}")
      let opened (files : Except OsError FileSystem) : Option Sinks × Session :=
        match files with
        | .error e => refuse e
        | .ok files =>
          match files.resolve s.dir path true with
          | .ok place => redirect fuel (into (.file place)) rest { s with files }
          | .error e => refuse e
      match r.direction with
      | .write =>
        if target == "/dev/null" then redirect fuel (into (.file [])) rest s
        else opened (s.files.writeBytes s.dir path [])
      | .append =>
        if target == "/dev/null" then redirect fuel (into (.file [])) rest s
        else opened (s.files.appendBytes s.dir path [])
      | .duplicate => redirect fuel (into (if target == "2" then sinks.errorOutput else sinks.output)) rest s
      | .read =>
        match if target == "/dev/null" then .ok [] else s.files.readBytes s.dir path with
        | .ok input => redirect fuel sinks rest { s with input }
        | .error e =>
          let reason := if e == .notFound then "No such file" else e.phrase
          (none, s.complain sinks 2 s!"cannot open {target}: {reason}")

/-- Gives some variables their values. -/
def assignAll (fuel : Nat) (sinks : Sinks) (assignments : List (String × Word)) (s : Session) : Session :=
  match fuel with
  | 0 => s
  | fuel + 1 =>
    match assignments with
    | [] => s
    | (name, w) :: rest =>
      let (value, s) := expandText fuel sinks w s
      assignAll fuel sinks rest (s.assign name value)

/-- Runs a command that is part of the shell itself. -/
def runBuiltin (fuel : Nat) (sinks : Sinks) (name : String) (arguments : List String) (s : Session) : Option (Flow × Session) :=
  match fuel with
  | 0 => none
  | fuel + 1 =>
    let done (s : Session) : Option (Flow × Session) := some (.next, { s with status := 0 })
    let count : Nat := ((arguments.head?.bind String.toNat?).getD 1)
    match name with
    | ":" => done s
    | "exit" => some (leaveScript sinks name arguments s)
    | "return" => some (leaveScript sinks name arguments s)
    | "exec" =>
      match arguments with
      | [] => done s
      | program :: arguments =>
        if lastName program != "sh" && (tools.lookup (lastName program)).isNone then
          some (.stop (.code 127), s.complain sinks 127 s!"exec: {program}: not found")
        else
          match runNamed fuel sinks program arguments s with
          | (.next, after) => some (.stop (.code after.status), after)
          | result => some result
    | "break" => some (.leave count false, { s with status := 0 })
    | "continue" => some (.leave count true, { s with status := 0 })
    | "cd" =>
      let target := arguments.headD ((s.value? "HOME").getD "/")
      match s.files.find s.dir ⟨target⟩ with
      | .ok (place, .directory) => done { s with dir := place }
      | _ => some (.next, s.complain sinks 2 s!"cd: can't cd to {target}")
    | "export" =>
      done (arguments.foldl
        (fun s a =>
          match Text.cutAtFirst (· == '=') a.toList with
          | some (name, _, value) =>
            let name := String.ofList name
            { s.assign name (String.ofList value) with exported := name :: s.exported }
          | none => { s with exported := a :: s.exported }) s)
    | "unset" => done { s with bindings := s.bindings.filter fun v => !arguments.contains v.1 }
    | "set" =>
      match arguments with
      | "--" :: rest => done { s with arguments := rest }
      | arguments =>
        let asked := arguments.any fun a => a.startsWith "-" && a.contains 'e'
        done { s with stopsOnFailure := s.stopsOnFailure || asked }
    | "shift" =>
      if s.arguments.length < count then some (.stop (.code 2), s.complain sinks 2 "shift: can't shift that many")
      else done { s with arguments := s.arguments.drop count }
    | "kill" =>
      match killCall arguments with
      | some (n, processes) =>
        if processes.contains (toString Session.processNumber) && n != 0 then some (.stop (.signal n), s) else done s
      | none => some (.next, s.complain sinks 2 "kill: usage: kill [-s sigspec | -signum | -sigspec] pid...")
    | "eval" => some (runList fuel sinks ((parse? (Text.joinText " " arguments).toList).getD []) s)
    | _ => none

/-- Runs a command by its name: a part of the shell, a tool, or another script. -/
def runNamed (fuel : Nat) (sinks : Sinks) (name : String) (arguments : List String) (s : Session) : Flow × Session :=
  match fuel with
  | 0 => (.stop (.signal 14), s)
  | fuel + 1 =>
    match runBuiltin fuel sinks name arguments s with
    | some result => result
    | none =>
      let call : ToolCall := { dir := s.dir, environment := s.environment, input := s.input, arguments }
      let bare := if name.startsWith "/bin/" || name.startsWith "/usr/bin/" then lastName name else name
      match if name == "echo" then some (echo true) else tools.lookup bare with
      | some tool =>
        let e := tool call s.files
        let s := { s with files := e.files, status := e.status }
        (.next, (s.write sinks.output e.output).write sinks.errorOutput e.errorOutput)
      | none =>
        match bare, arguments with
        | "sh", "-c" :: text :: rest => runScript fuel sinks text.toList (rest.headD "sh") (rest.drop 1) s
        | "sh", file :: rest =>
          match s.files.readText s.dir ⟨file⟩ with
          | .ok text => runScript fuel sinks text.toList file rest s
          | .error _ => (.next, s.complain sinks 2 s!"cannot open {file}: No such file")
        | _, _ =>
          if name.toList.contains '/' && s.files.isThere s.dir ⟨name⟩ then
            (.next, s.complain sinks 126 s!"{name}: Permission denied")
          else (.next, s.complain sinks 127 s!"{name}: not found")

/-- Runs the text of a script in a shell of its own. -/
def runScript (fuel : Nat) (sinks : Sinks) (text : List Char) (name : String) (arguments : List String) (s : Session) :
    Flow × Session :=
  match fuel with
  | 0 => (.stop (.signal 14), s)
  | fuel + 1 =>
    let inner := { s with name, arguments, bindings := s.environment, stopsOnFailure := false }
    match parse? text with
    | none =>
      let inner := inner.complain sinks 2 "Syntax error: end of file unexpected"
      (.next, { inner with name := s.name, arguments := s.arguments })
    | some commands => runIsolated fuel sinks commands inner |> fun (flow, after) =>
      let status := { s with files := after.files, output := after.output, errorOutput := after.errorOutput }
      match flow with
      | .stop (.signal n) => (.next, { status with status := 128 + n })
      | _ => (.next, { status with status := after.status })

/-- Runs commands on a copy of the session, of which only the files and the output are kept. -/
def runIsolated (fuel : Nat) (sinks : Sinks) (commands : List Command) (s : Session) : Flow × Session :=
  match fuel with
  | 0 => (.stop (.signal 14), s)
  | fuel + 1 =>
    let (flow, after) := runList fuel sinks commands s
    let kept := { s with files := after.files, output := after.output, errorOutput := after.errorOutput, status := after.status }
    match flow with
    | .stop (.code n) => (.next, { kept with status := n })
    | .stop (.signal n) => (.stop (.signal n), kept)
    | _ => (.next, kept)

/-- Runs commands one after another. -/
def runList (fuel : Nat) (sinks : Sinks) (commands : List Command) (s : Session) : Flow × Session :=
  match fuel with
  | 0 => (.stop (.signal 14), s)
  | fuel + 1 =>
    match commands with
    | [] => (.next, s)
    | c :: rest =>
      match runCommand fuel sinks c s with
      | (.next, s) =>
        let isTested :=
          match c with
          | .both _ _ => true
          | .either _ _ => true
          | .negation _ => true
          | _ => false
        if s.stopsOnFailure && s.status != 0 && !isTested then (.stop (.code s.status), s) else runList fuel sinks rest s
      | (flow, s) => (flow, s)

/-- Runs the turns of a loop. -/
def runLoop (fuel : Nat) (sinks : Sinks) (holds : Bool) (condition body : List Command) (status : Nat) (s : Session) :
    Flow × Session :=
  match fuel with
  | 0 => (.stop (.signal 14), s)
  | fuel + 1 =>
    match runList fuel sinks condition { s with stopsOnFailure := false } with
    | (.next, after) =>
      let after := { after with stopsOnFailure := s.stopsOnFailure }
      if (after.status == 0) == holds then
        match runList fuel sinks body after with
        | (.next, s) => runLoop fuel sinks holds condition body s.status s
        | (.leave loops again, s) =>
          if 1 < loops then (.leave (loops - 1) again, s)
          else if again then runLoop fuel sinks holds condition body 0 s
          else (.next, s)
        | (flow, s) => (flow, s)
      else (.next, { after with status })
    | (flow, s) => (flow, s)

/-- Runs the turns of a loop over words. -/
def runEach (fuel : Nat) (sinks : Sinks) (name : String) (words : List String) (body : List Command) (s : Session) :
    Flow × Session :=
  match fuel with
  | 0 => (.stop (.signal 14), s)
  | fuel + 1 =>
    match words with
    | [] => (.next, s)
    | w :: rest =>
      match runList fuel sinks body (s.assign name w) with
      | (.next, s) => runEach fuel sinks name rest body s
      | (.leave loops again, s) =>
        if 1 < loops then (.leave (loops - 1) again, s)
        else if again then runEach fuel sinks name rest body s
        else (.next, s)
      | (flow, s) => (flow, s)

/-- Runs a command. -/
def runCommand (fuel : Nat) (sinks : Sinks) (c : Command) (s : Session) : Flow × Session :=
  match fuel with
  | 0 => (.stop (.signal 14), s)
  | fuel + 1 =>
    match c with
    | .simple assignments words redirections =>
      let (words, s) := expandWords fuel sinks words s
      let input := s.input
      match redirect fuel sinks redirections s with
      | (none, s) =>
        if words.head?.any [":", "exit", "export", "set", "eval", "shift", "unset"].contains then (.stop (.code 2), s)
        else (.next, s)
      | (some inner, s) =>
        match words with
        | [] => (.next, assignAll fuel sinks assignments { s with status := 0, input })
        | name :: arguments =>
          let before := s
          let s := assignAll fuel sinks assignments s
          let s := { s with exported := assignments.map (·.1) ++ s.exported }
          let (flow, s) := runNamed fuel inner name arguments s
          let s := { s with input }
          if assignments.isEmpty then (flow, s) else (flow, { s with bindings := before.bindings, exported := before.exported })
    | .group isolated body redirections =>
      let input := s.input
      match redirect fuel sinks redirections s with
      | (none, s) => (.next, s)
      | (some inner, s) =>
        let (flow, s) := if isolated then runIsolated fuel inner body s else runList fuel inner body s
        (flow, { s with input })
    | .branch condition body otherwise =>
      match runList fuel sinks condition { s with stopsOnFailure := false } with
      | (.next, after) =>
        let after := { after with stopsOnFailure := s.stopsOnFailure }
        if after.status == 0 then runList fuel sinks body after else runList fuel sinks otherwise { after with status := 0 }
      | (flow, s) => (flow, s)
    | .loop holds condition body => runLoop fuel sinks holds condition body 0 s
    | .each name words body =>
      let (words, s) := expandWords fuel sinks words s
      runEach fuel sinks name words body { s with status := 0 }
    | .both first second =>
      match runCommand fuel sinks first s with
      | (.next, s) => if s.status == 0 then runCommand fuel sinks second s else (.next, s)
      | (flow, s) => (flow, s)
    | .either first second =>
      match runCommand fuel sinks first s with
      | (.next, s) => if s.status == 0 then (.next, s) else runCommand fuel sinks second s
      | (flow, s) => (flow, s)
    | .negation inner =>
      match runCommand fuel sinks inner s with
      | (.next, s) => (.next, { s with status := if s.status == 0 then 1 else 0 })
      | (flow, s) => (flow, s)
    | .pipe first second =>
      let (_, left) := runIsolated fuel { sinks with output := .output } [first] { s with output := [] }
      let right := { s with files := left.files, errorOutput := left.errorOutput, input := left.output }
      let (flow, after) := runIsolated fuel sinks [second] right
      (flow, { after with input := s.input })

end

end ReleaseGate.Shell
