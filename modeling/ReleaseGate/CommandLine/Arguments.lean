import ReleaseGate.Files.Path
import ReleaseGate.Process
import ReleaseGate.Trigger

/-!
# Arguments

The command line has four commands, each with options of its own, and a few options that may stand before or after the command.
An option with a value takes the next argument, or what follows an equals sign; most options can also be given by a variable of
the environment, which an argument overrides.
-/

namespace ReleaseGate.CommandLine

/-- The options. -/
inductive Key where
  | verbose
  | json
  | config
  | help
  | version
  | event
  | gitRef
  | repository
  | refType
  | releaseAction
  | manual
  | reportJson
  | summaryMd
  | dir
  | artifactVersion
  deriving DecidableEq, Repr

/-- How an option is spelled. -/
structure Flag where
  key : Key
  long : String
  short : Option Char := none
  takesValue : Bool := true

/-- The options of every command. -/
def globalFlags : List Flag :=
  [⟨.verbose, "verbose", some 'v', false⟩, ⟨.json, "json", none, false⟩, ⟨.config, "config", some 'c', true⟩,
   ⟨.help, "help", some 'h', false⟩]

/-- The options that stand before the command only. -/
def leadingFlags : List Flag := ⟨.version, "version", some 'V', false⟩ :: globalFlags

/-- The options about the trigger of a run. -/
def triggerFlags : List Flag :=
  [{ key := .event, long := "event" }, { key := .gitRef, long := "ref" }, { key := .repository, long := "repository" },
   { key := .refType, long := "ref-type" }, { key := .releaseAction, long := "release-action" }, ⟨.manual, "manual", none, false⟩]

/-- The options about what a run writes. -/
def outputFlags : List Flag := [{ key := .reportJson, long := "report-json" }, { key := .summaryMd, long := "summary-md" }]

/-- The options about the artifacts to verify. -/
def artifactFlags : List Flag := [{ key := .dir, long := "dir" }, { key := .artifactVersion, long := "version" }]

/-- The variable that gives an option when no argument does. -/
def variableOf : Key → Option String
  | .config => some "SHIPGATE_CONFIG"
  | .event => some "GITHUB_EVENT_NAME"
  | .gitRef => some "GITHUB_REF"
  | .repository => some "GITHUB_REPOSITORY"
  | .refType => some "GITHUB_REF_TYPE"
  | .releaseAction => some "SHIPGATE_RELEASE_ACTION"
  | .manual => some "SHIPGATE_MANUAL_DISPATCH"
  | .summaryMd => some "GITHUB_STEP_SUMMARY"
  | _ => none

/-- The options that were given, with their values. -/
abbrev Given := List (Key × String)

/-- Adds an option, unless it was given before. -/
def Given.add? (g : Given) (key : Key) (value : String) : Option Given :=
  if (g.lookup key).isSome then none else some (g ++ [(key, value)])

/-- Whether an argument can be the value of an option: it does not look like an option itself. -/
def canBeValue (argument : String) : Bool := argument == "-" || !argument.startsWith "-"

/-- The value of an option that is the next argument, and the arguments after it. -/
def takeValue? : List String → Option (String × List String)
  | value :: rest => if canBeValue value then some (value, rest) else none
  | [] => none

/-- What an argument is. -/
inductive Item where
  /-- Options without a value, and then perhaps one that takes a value, which is there when it was attached. -/
  | options (flags : List Key) (last : Option (Key × Option String))
  | word
  deriving Repr

/-- The short options in an argument. -/
def readShort? (flags : List Flag) : List Char → Option (List Key × Option (Key × Option String))
  | [] => some ([], none)
  | c :: rest =>
    match flags.find? (·.short == some c) with
    | none => none
    | some f =>
      if f.takesValue then
        match rest with
        | [] => some ([], some (f.key, none))
        | '=' :: value => some ([], some (f.key, some (String.ofList value)))
        | value => some ([], some (f.key, some (String.ofList value)))
      else (readShort? flags rest).map fun (keys, last) => (f.key :: keys, last)

/-- What an argument is among some options; `none` when it looks like an option and is none. -/
def readItem? (flags : List Flag) (argument : String) : Option Item :=
  match argument.toList with
  | '-' :: '-' :: long =>
    let (name, value) :=
      match Text.cutAtFirst (· == '=') long with
      | some (before, _, after) => (before, some (String.ofList after))
      | none => (long, none)
    match flags.find? (·.long.toList == name) with
    | none => none
    | some f =>
      if f.takesValue then some (.options [] (some (f.key, value)))
      else if value.isSome then none
      else some (.options [f.key] none)
  | '-' :: c :: short => (readShort? flags (c :: short)).map fun (keys, last) => .options keys last
  | _ => some .word

/-- The argument after which no argument is an option. -/
def endOfOptions : String := "--"

/-- The options at the beginning of some arguments, and the arguments from the first that is none. At most `fuel` arguments are
read. -/
def readOptions? (flags : List Flag) : Nat → Given → List String → Option (Given × List String)
  | 0, g, arguments => some (g, arguments)
  | fuel + 1, g, arguments =>
    match arguments with
    | [] => some (g, [])
    | argument :: rest =>
      match readItem? flags argument with
      | none => if argument == endOfOptions && rest.isEmpty then some (g, []) else none
      | some .word => some (g, argument :: rest)
      | some (.options keys last) =>
        (keys.foldlM (fun g key => Given.add? g key "") g).bind fun g =>
          match last with
          | none => readOptions? flags fuel g rest
          | some (key, some value) => (Given.add? g key value).bind fun g => readOptions? flags fuel g rest
          | some (key, none) =>
            (takeValue? rest).bind fun (value, rest) => (Given.add? g key value).bind fun g => readOptions? flags fuel g rest

/-- Whether a value of a switch, such as a variable gives it, leaves it off. -/
def isFalsey (value : String) : Bool :=
  ["", "n", "no", "f", "false", "off", "0"].contains (String.ofList (value.toList.map Char.toLower))

/-- The value of an option, given by an argument or by its variable. -/
def Given.value? (g : Given) (environment : Environment) (key : Key) : Option String :=
  (g.lookup key).or ((variableOf key).bind fun name => environment.lookup name)

/-- A path that an option may give; the empty text is none. -/
def Given.path? (g : Given) (environment : Environment) (key : Key) : Option (Option Path) :=
  match g.value? environment key with
  | some "" => none
  | some text => some (some ⟨text⟩)
  | none => some none

/-- The trigger that options and variables describe. A blank ref type or release action counts as not given. -/
def Given.trigger (g : Given) (environment : Environment) : Trigger :=
  let text (key : Key) : String := (g.value? environment key).getD ""
  let filled (key : Key) : Option String := (g.value? environment key).filter fun v => !Text.isBlankText v
  { eventName := text .event, gitRef := text .gitRef, repository := text .repository, refType := filled .refType
    lifecycleAction := filled .releaseAction
    manualDispatch := (g.lookup .manual).isSome || ((g.value? environment .manual).any fun v => !isFalsey v) }

/-- What the command line asks for. -/
inductive Request where
  | run (trigger : Trigger) (reportJson summaryMd : Option Path)
  | classify (trigger : Trigger)
  | version (trigger : Trigger)
  | verify (dir : Path) (version : String)
  | showHelp
  | showVersion
  deriving Repr

/-- The paths that a request names. -/
def Request.paths : Request → List Path
  | .run _ reportJson summaryMd => reportJson.toList ++ summaryMd.toList
  | .verify dir _ => [dir]
  | _ => []

/-- The configuration file that is read when none is given. -/
def defaultConfig : Path := ⟨"shipgate.toml"⟩

/-- The request of a command with its options. -/
def requestOf? (environment : Environment) (command : String) (g : Given) : Option Request :=
  let trigger := g.trigger environment
  match command with
  | "run" =>
    (g.path? environment .reportJson).bind fun reportJson =>
      (g.path? environment .summaryMd).map fun summaryMd => .run trigger reportJson summaryMd
  | "classify" => some (.classify trigger)
  | "version" => some (.version trigger)
  | "verify" =>
    match g.path? environment .dir, g.lookup .artifactVersion with
    | some (some dir), some version => some (.verify dir version)
    | _, _ => none
  | _ => none

/-- The configuration file that the options before and after the command give. Each side is read by itself, and where it does
not give the option its variable does. -/
def configOf? (environment : Environment) (before after : Given) : Option (Option Path) :=
  (before.path? environment .config).bind fun outer =>
    (after.path? environment .config).map fun inner =>
      if (before.lookup .config).isSome && (after.lookup .config).isNone then outer else inner

/-- The options of a command of its own. -/
def flagsOf? : String → Option (List Flag)
  | "run" => some (globalFlags ++ triggerFlags ++ outputFlags)
  | "classify" => some (globalFlags ++ triggerFlags)
  | "version" => some (globalFlags ++ triggerFlags)
  | "verify" => some (globalFlags ++ artifactFlags)
  | _ => none

/-- The configuration file and the request that some arguments ask for; `none` when they are not understood. An option that
stands on both sides of the command counts as it stands after it. -/
def parse? (environment : Environment) (arguments : List String) : Option (Path × Request) :=
  (readOptions? leadingFlags (arguments.length + 1) [] arguments).bind fun (before, rest) =>
    if (before.lookup .help).isSome then some (defaultConfig, .showHelp)
    else if (before.lookup .version).isSome then some (defaultConfig, .showVersion)
    else
      match rest with
      | [] => none
      | "help" :: _ => some (defaultConfig, .showHelp)
      | command :: rest =>
        (flagsOf? command).bind fun flags =>
          (readOptions? flags (rest.length + 1) [] rest).bind fun (after, extra) =>
            if (after.lookup .help).isSome then some (defaultConfig, .showHelp)
            else if !extra.isEmpty then none
            else
              (configOf? environment before after).bind fun config =>
                (requestOf? environment command after).map fun request => (config.getD defaultConfig, request)

/-- The paths that some arguments name. -/
def paths (environment : Environment) (arguments : List String) : List Path :=
  match parse? environment arguments with
  | some (config, request) => config :: request.paths
  | none => []

end ReleaseGate.CommandLine
