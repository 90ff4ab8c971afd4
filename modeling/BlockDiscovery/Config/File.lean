import BlockDiscovery.Config.Environment
import BlockDiscovery.Config.Settings
import BlockDiscovery.Files.Tree
import BlockDiscovery.Toml.Reader

/-!
# The configuration file

The file describes the server in its table `server`, where everything may be left out:
the command line can supply the command and the language.  `FileSettings.resolve` makes
server settings of both, with references to environment variables replaced in the
command, its arguments, the values of its environment and its working directory.
-/

namespace BlockDiscovery.Config

open BlockDiscovery BlockDiscovery.Files
open BlockDiscovery.Uri (Path)

/-! ## The records -/

/-- The table `server` of a configuration file. -/
structure ServerTable where
  command : Option String
  language : Option String
  args : List String
  environment : List (String × String)
  directory : Option String
  root : Option String
  initOptions : Option Toml.Value
  requestTimeout : Option Nat
  diagnosticsTimeout : Option Nat
  settleTime : Option Nat
  shutdownGrace : Option Nat
  deriving Repr, Inhabited

/-- The table that says nothing. -/
def ServerTable.blank : ServerTable :=
  ⟨none, none, [], [], none, none, none, none, none, none, none⟩

/-- What a configuration file says. -/
structure FileSettings where
  server : Option ServerTable
  deriving Repr, Inhabited

/-- What the command line says; it takes precedence over the file. -/
structure Overrides where
  command : Option String
  language : Option String
  deriving Repr, Inhabited

/-- Why there are no settings. -/
inductive ConfigError where
  | unreadable (path : Path) (error : FileError)
  | invalid (path : Path)
  /-- Neither the file nor the command line has the named value. -/
  | missing (name : String)
  /-- The options for the server hold a number that JSON does not have. -/
  | badOptions (number : Toml.Real)

def ConfigError.message : ConfigError → List Char
  | .unreadable path error =>
    "failed to read config at ".toList ++ path.display ++ ": ".toList ++ error.message.toList
  | .invalid path => "failed to parse config at ".toList ++ path.display
  | .missing name =>
    "`".toList ++ name.toList ++ "` is not configured (set it under [server] or pass --".toList ++
      name.toList ++ [')']
  | .badOptions number =>
    "invalid initialization_options: invalid float: ".toList ++ number.text.toList

/-! ## Reading -/

def stringOf? : Toml.Value → Option String
  | .string s => some s
  | _ => none

/-- A natural number below `2 ^ 64`. -/
def naturalOf? : Toml.Value → Option Nat
  | .integer n => if 0 ≤ n ∧ n < 0x1_0000_0000_0000_0000 then some n.toNat else none
  | _ => none

/-- Strings in an array. -/
def stringsOf? : Toml.Value → Option (List String)
  | .array items => items.mapM stringOf?
  | _ => none

/-- Strings in a table. -/
def dictionaryOf? : Toml.Value → Option (List (String × String))
  | .table entries => entries.mapM fun (k, v) => (stringOf? v).map fun s => (k, s)
  | _ => none

mutual

/-- Whether every integer in a value has at most 64 bits. -/
def fits : Toml.Value → Bool
  | .integer n => -0x8000_0000_0000_0000 ≤ n ∧ n < 0x8000_0000_0000_0000
  | .array items => fitsAll items
  | .table entries => fitsEntries entries
  | .string _ | .real _ | .boolean _ | .moment _ => true

def fitsAll : List Toml.Value → Bool
  | [] => true
  | v :: rest => fits v && fitsAll rest

def fitsEntries : List (String × Toml.Value) → Bool
  | [] => true
  | (_, v) :: rest => fits v && fitsEntries rest

end

def optionsOf? (v : Toml.Value) : Option Toml.Value := if fits v then some v else none

/-- A value that may be absent; `none` if it is there and not of the right type. -/
def optional? {α : Type} (decode : Toml.Value → Option α) :
    Option Toml.Value → Option (Option α)
  | none => some none
  | some v => (decode v).map some

/-- The names in the table, in order. -/
def serverNames : List String :=
  ["command", "language", "args", "env", "cwd", "root", "initialization_options", "timeout_ms",
    "diagnostics_timeout_ms", "diagnostics_settle_ms", "shutdown_grace_ms"]

/-- The table made of entries; others are passed over. -/
def ServerTable.ofEntries? (entries : List (String × Toml.Value)) : Option ServerTable := do
  let field {α : Type} (name : String) (decode : Toml.Value → Option α) : Option (Option α) :=
    optional? decode (Json.lookup name entries)
  return {
    command := ← field "command" stringOf?
    language := ← field "language" stringOf?
    args := (← field "args" stringsOf?).getD []
    environment := (← field "env" dictionaryOf?).getD []
    directory := ← field "cwd" stringOf?
    root := ← field "root" stringOf?
    initOptions := ← field "initialization_options" optionsOf?
    requestTimeout := ← field "timeout_ms" naturalOf?
    diagnosticsTimeout := ← field "diagnostics_timeout_ms" naturalOf?
    settleTime := ← field "diagnostics_settle_ms" naturalOf?
    shutdownGrace := ← field "shutdown_grace_ms" naturalOf? }

/-- The table as it is written: by name, or as an array of all its values in order. -/
def ServerTable.ofValue? : Toml.Value → Option ServerTable
  | .table entries => ofEntries? entries
  | .array items =>
    if items.length < serverNames.length then none else ofEntries? (serverNames.zip items)
  | _ => none

/-- What the text of a configuration file says. -/
def FileSettings.ofText? (text : List Char) : Option FileSettings := do
  let entries ← Toml.read? text
  let server ← optional? ServerTable.ofValue? (Json.lookup "server" entries)
  return ⟨server⟩

/-! ## Loading -/

/-- Where the configuration file of a user is. -/
def defaultPath (home : String) : Path :=
  (Path.ofString home).under (Path.ofString ".vivafolio/config.toml")

def FileSettings.readFrom (tree : FileTree) (directory path : Path) :
    Except ConfigError FileSettings :=
  match tree.readText directory path with
  | .error e => .error (.unreadable path e)
  | .ok text =>
    match ofText? text.toList with
    | some settings => .ok settings
    | none => .error (.invalid path)

/-- Load the file that was asked for, and else the one of the user if there is one. -/
def FileSettings.load (tree : FileTree) (directory : Path) (env : Environment)
    (wanted : Option Path) : Except ConfigError (Option FileSettings) :=
  match wanted with
  | some path => (readFrom tree directory path).map some
  | none =>
    match env.get? "HOME" with
    | none => .ok none
    | some home =>
      let path := defaultPath home
      if tree.reaches directory path then (readFrom tree directory path).map some else .ok none

/-! ## Resolving -/

/-- A value that must be there. -/
def require (name : String) : Option String → Except ConfigError String
  | some v => .ok v
  | none => .error (.missing name)

/-- The settings of the server that the file and the command line describe. -/
def FileSettings.resolve (file : Option FileSettings) (overrides : Overrides) (env : Environment) :
    Except ConfigError ServerSettings := do
  let table := (file.bind FileSettings.server).getD .blank
  let command ← require "command" (overrides.command.or table.command)
  let language ← require "language" (overrides.language.or table.language)
  let options ← (table.initOptions.mapM Toml.Value.toJson).mapError .badOptions
  let base := ServerSettings.make (env.expand command) language
  return { base with
    args := table.args.map env.expand
    environment := table.environment.map fun (k, v) => (k, env.expand v)
    directory := table.directory.map env.expand
    root := table.root
    initOptions := options
    requestTimeout := table.requestTimeout.getD base.requestTimeout
    diagnosticsTimeout := table.diagnosticsTimeout.getD base.diagnosticsTimeout
    settleTime := table.settleTime.getD base.settleTime
    shutdownGrace := table.shutdownGrace.getD base.shutdownGrace }

end BlockDiscovery.Config
