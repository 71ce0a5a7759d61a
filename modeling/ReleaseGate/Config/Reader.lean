import ReleaseGate.Config
import ReleaseGate.Toml.Reader

/-!
# Reading a configuration

A configuration is a TOML document with a table for each section. A name that no section knows is refused rather than ignored. A
section may also be given as the array of its values in order.
-/

namespace ReleaseGate.Config

open Toml (Value)

/-- The values of a section, in the order of their names: `none` for one that is left out. -/
def fields? (names : List String) : Value → Option (List (Option Value))
  | .table _ members =>
    if members.all fun member => names.contains member.1 then some (names.map fun name => members.lookup name) else none
  | .array _ items => some (names.zipIdx.map fun (_, i) => items[i]?)
  | _ => none

/-- A value that must be there. -/
def required {α : Type} (each : Value → Option α) (field : Option Value) : Option α := field.bind each

/-- A value with a default. -/
def orElse {α : Type} (each : Value → Option α) (default : α) : Option Value → Option α
  | none => some default
  | some v => each v

/-- A text. -/
def text? : Value → Option String
  | .str s => some s
  | _ => none

/-- A truth value. -/
def flag? : Value → Option Bool
  | .boolean b => some b
  | _ => none

/-- A path. -/
def path? (v : Value) : Option Path := (text? v).map Path.mk

/-- A list of texts. -/
def texts? : Value → Option (List String)
  | .array _ items => items.mapM text?
  | _ => none

/-- Whether a value is an empty table or an empty array. -/
def isEmptyValue : Value → Bool
  | .array _ items => items.isEmpty
  | .table _ members => members.isEmpty
  | _ => false

/-- A mode, by its name, or as a table in which the name has nothing. -/
def mode? : Value → Option CredentialMode
  | .str name => CredentialMode.ofName? name
  | .table _ [(name, v)] => if isEmptyValue v then CredentialMode.ofName? name else none
  | _ => none

/-- The section on the repository. -/
def repository? (v : Value) : Option Repository :=
  (fields? ["canonical", "trunk_branch"] v).bind fun
    | [c, t] => do
      let canonical ← required text? c
      let trunkBranch ← orElse text? "main" t
      pure { canonical, trunkBranch }
    | _ => none

/-- The section on the derivation of versions. -/
def derivation? (v : Value) : Option Derivation :=
  (fields? ["command"] v).bind fun
    | [c] => (orElse texts? ({} : Derivation).command c).map fun command => { command }
    | _ => none

/-- The section on builds. -/
def build? (v : Value) : Option Build :=
  let default : Build := {}
  (fields? ["command", "output_root", "version_env"] v).bind fun
    | [c, o, e] => do
      let command ← orElse texts? default.command c
      let outputRoot ← orElse path? default.outputRoot o
      let versionVariable ← orElse text? default.versionVariable e
      pure { command, outputRoot, versionVariable }
    | _ => none

/-- The section on the package. -/
def package? (v : Value) : Option Package :=
  let default : Package := { name := "" }
  (fields? ["name", "summary", "readme", "readme_content_type"] v).bind fun
    | [n, s, r, t] => do
      let name ← required text? n
      let summary ← orElse text? default.summary s
      let readme ← orElse (fun v => (path? v).map some) default.readme r
      let contentType ← orElse text? default.contentType t
      pure { name, summary, readme, contentType }
    | _ => none

/-- The section on one channel. -/
def channel? (v : Value) : Option ChannelSettings :=
  let default : ChannelSettings := { url := "" }
  (fields? ["url", "mint_url", "idempotent", "username"] v).bind fun
    | [u, m, i, n] => do
      let url ← required text? u
      let mintUrl ← orElse (fun v => (text? v).map some) default.mintUrl m
      let idempotent ← orElse flag? default.idempotent i
      let username ← orElse text? default.username n
      pure { url, mintUrl, idempotent, username }
    | _ => none

/-- The section on the channels. -/
def channels? (v : Value) : Option (PerChannel ChannelSettings) :=
  (fields? (Channel.all.map Channel.name) v).bind fun
    | [s, p] => do
      let staging ← required channel? s
      let production ← required channel? p
      pure { staging, production }
    | _ => none

/-- The section on credentials. -/
def credentials? (v : Value) : Option Credentials :=
  let default : Credentials := {}
  let names :=
    ["mode", "staging_token_env", "production_token_env", "oidc_request_url_env", "oidc_request_token_env", "oidc_audience"]
  (fields? names v).bind fun
    | [m, s, p, u, t, a] => do
      let mode ← orElse mode? default.mode m
      let staging ← orElse text? default.tokenVariables.staging s
      let production ← orElse text? default.tokenVariables.production p
      let identityUrlVariable ← orElse text? default.identityUrlVariable u
      let identitySecretVariable ← orElse text? default.identitySecretVariable t
      let audience ← orElse (fun v => (text? v).map some) default.audience a
      pure { mode, tokenVariables := ⟨staging, production⟩, identityUrlVariable, identitySecretVariable, audience }
    | _ => none

/-- The configuration that a document holds. -/
def ofValue? (baseDir : Path) (v : Value) : Option Config :=
  (fields? ["repository", "version", "build", "package", "channels", "credentials"] v).bind fun
    | [r, v, b, p, ch, cr] => do
      let repository ← required repository? r
      let version ← orElse derivation? {} v
      let build ← orElse build? {} b
      let package ← required package? p
      let channels ← required channels? ch
      let credentials ← orElse credentials? {} cr
      pure { repository, version, build, package, channels, credentials, baseDir }
    | _ => none

/-- The configuration that a text holds, when it makes sense. -/
def parse (baseDir : Path) (text : String) : Except Error Config :=
  match (Toml.parse? text).bind (ofValue? baseDir) with
  | none => .error (.malformed "the text is no configuration")
  | some cfg => cfg.check.map fun _ => cfg

/-- The directory from which the paths of a configuration file are read: the one that holds it. -/
def baseDirOf (path : Path) : Path :=
  match path.parent? with
  | some dir => if dir.text.isEmpty then ⟨"."⟩ else dir
  | none => ⟨"."⟩

/-- The configuration in a file. -/
def load (fs : FileSystem) (cwd : Place) (path : Path) : Except Error Config :=
  match fs.readText cwd path with
  | .error e => .error (.unreadable path e)
  | .ok text => parse (baseDirOf path) text

end ReleaseGate.Config
