import ReleaseGate.Files.FileSystem

/-!
# Commands

A command is a program with its arguments, the directory and the variables it runs with. A `CommandRunner` says what running one
does to a file system and what comes of it: the program cannot be started, or it ends with a status and two streams of output.
-/

namespace ReleaseGate

/-- How a program ended. -/
inductive ExitStatus where
  | code (n : Nat)
  | signal (n : Nat)
  deriving DecidableEq, Repr

namespace ExitStatus

/-- Whether a program ended with success. -/
def isSuccess (s : ExitStatus) : Bool := s == .code 0

/-- The names of the signals that end a program. -/
def signalNames : List (Nat × String) :=
  [(1, "SIGHUP"), (2, "SIGINT"), (3, "SIGQUIT"), (4, "SIGILL"), (5, "SIGTRAP"), (6, "SIGABRT"), (7, "SIGBUS"), (8, "SIGFPE"),
   (9, "SIGKILL"), (10, "SIGUSR1"), (11, "SIGSEGV"), (12, "SIGUSR2"), (13, "SIGPIPE"), (14, "SIGALRM"), (15, "SIGTERM"),
   (16, "SIGSTKFLT"), (24, "SIGXCPU"), (25, "SIGXFSZ"), (26, "SIGVTALRM"), (27, "SIGPROF"), (29, "SIGIO"), (30, "SIGPWR"),
   (31, "SIGSYS")]

/-- The wording of a status. -/
def message : ExitStatus → String
  | .code n => s!"exit status: {n}"
  | .signal n =>
    match signalNames.lookup n with
    | some name => s!"signal: {n} ({name})"
    | none => s!"signal: {n}"

end ExitStatus

/-- The variables that a program sees. -/
abbrev Environment := List (String × String)

/-- The variables in a block of bytes, where each is a name, an equals sign and a value with a zero byte at its end. -/
def Environment.ofBlock (block : List UInt8) : Environment :=
  (Text.fields '\x00' (Text.Utf8.decodeLossy block).toList).filterMap fun entry =>
    (Text.cutAtFirst (· == '=') entry).map fun (name, _, value) => (String.ofList name, String.ofList value)

/-- A program with what it runs with. -/
structure Invocation where
  program : String
  arguments : List String
  /-- The directory it runs in, read from the working directory of the caller. -/
  directory : Path
  environment : Environment

/-- What comes of running a command. -/
inductive CommandResult where
  | notStarted (e : OsError)
  | ended (status : ExitStatus) (output errorOutput : List UInt8)

/-- What running a command from a working directory does to a file system, and what comes of it. -/
abbrev CommandRunner := Place → Invocation → FileSystem → CommandResult × FileSystem

end ReleaseGate
