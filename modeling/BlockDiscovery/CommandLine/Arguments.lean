import BlockDiscovery.Config.File

/-!
# Command line arguments

The command takes files and, in any order with them, options that have a value each: the
value follows the name after an equals sign or as the next argument, which then does not
start with a hyphen.  After two hyphens all arguments are files.  Arguments are read from
left to right, so that a request for help is answered only if nothing is wrong before it.
-/

namespace BlockDiscovery.CommandLine

open BlockDiscovery.Config (Overrides)
open BlockDiscovery.Uri (Path)

/-! ## What is asked for -/

/-- An option with a value. -/
inductive OptionName where
  | config
  | command
  | language
  deriving Repr, DecidableEq, Inhabited

def OptionName.ofText? : List Char → Option OptionName
  | ['c', 'o', 'n', 'f', 'i', 'g'] => some .config
  | ['c', 'o', 'm', 'm', 'a', 'n', 'd'] => some .command
  | ['l', 'a', 'n', 'g', 'u', 'a', 'g', 'e'] => some .language
  | _ => none

def OptionName.text : OptionName → String
  | .config => "config"
  | .command => "command"
  | .language => "language"

/-- What the command line asks to discover. -/
structure Arguments where
  /-- The configuration file, if one was named. -/
  config : Option Path
  overrides : Overrides
  files : List Path
  deriving Repr, Inhabited

/-- What the command line asks for. -/
inductive Request where
  | discover (a : Arguments)
  | help
  | version
  deriving Repr, Inhabited

/-- What is wrong with a command line. -/
inductive UsageError where
  | unknown (argument : String)
  | noValue (name : OptionName)
  | emptyPath
  | repeated (name : OptionName)
  /-- A flag was given a value. -/
  | surplusValue (flag : String)
  | noFiles
  deriving Repr, DecidableEq, Inhabited

def UsageError.message : UsageError → String
  | .unknown argument => "unexpected argument '" ++ argument ++ "'"
  | .noValue name => "a value is required for '--" ++ name.text ++ "'"
  | .emptyPath => "a path is empty"
  | .repeated name => "'--" ++ name.text ++ "' is given more than once"
  | .surplusValue flag => "'" ++ flag ++ "' takes no value"
  | .noFiles => "no files are given"

/-! ## Reading -/

namespace Arguments

/-- Nothing was read yet. -/
def blank : Arguments := ⟨none, ⟨none, none⟩, []⟩

def has (a : Arguments) : OptionName → Bool
  | .config => a.config.isSome
  | .command => a.overrides.command.isSome
  | .language => a.overrides.language.isSome

/-- Take in an option. -/
def set (a : Arguments) (name : OptionName) (value : List Char) : Except UsageError Arguments :=
  if a.has name then .error (.repeated name)
  else
    match name with
    | .config => if value.isEmpty then .error .emptyPath else .ok { a with config := some (.ofText value) }
    | .command => .ok { a with overrides := { a.overrides with command := some (String.ofList value) } }
    | .language =>
      .ok { a with overrides := { a.overrides with language := some (String.ofList value) } }

/-- Take in a file. -/
def addFile (a : Arguments) (file : List Char) : Except UsageError Arguments :=
  if file.isEmpty then .error .emptyPath else .ok { a with files := a.files ++ [.ofText file] }

/-- Nothing more is to be read. -/
def done (a : Arguments) : Except UsageError Request :=
  if a.files.isEmpty then .error .noFiles else .ok (.discover a)

end Arguments

/-- One argument by its form. -/
inductive Form where
  | file
  | option (name : OptionName) (value : Option (List Char))
  | help
  | version
  | wrong (error : UsageError)

/-- The form of an argument that starts with two hyphens. -/
def longForm (argument : String) (name : List Char) (value : Option (List Char)) : Form :=
  match OptionName.ofText? name with
  | some option => .option option value
  | none =>
    if name = "help".toList ∨ name = "version".toList then
      if value.isSome then .wrong (.surplusValue argument)
      else if name = "help".toList then .help else .version
    else .wrong (.unknown argument)

/-- The form of an argument before two lone hyphens. -/
def formOf (argument : List Char) : Form :=
  match argument with
  | '-' :: '-' :: rest =>
    match Text.cutAt? '=' rest with
    | some (name, value) => longForm (String.ofList argument) name (some value)
    | none => longForm (String.ofList argument) rest none
  | '-' :: 'h' :: _ => .help
  | '-' :: 'V' :: _ => .version
  | '-' :: _ :: _ => .wrong (.unknown (String.ofList argument))
  | _ => .file

/-- Whether an argument can be the value of the option before it. -/
def isValue (argument : List Char) : Bool :=
  match argument with
  | '-' :: _ :: _ => false
  | _ => true

def readFiles (a : Arguments) : List (List Char) → Except UsageError Request
  | [] => a.done
  | file :: rest => (a.addFile file).bind fun a => readFiles a rest

/-- Read arguments; `pending` is an option that waits for its value. -/
def readFrom (a : Arguments) (pending : Option OptionName) :
    List (List Char) → Except UsageError Request
  | [] =>
    match pending with
    | some name => .error (.noValue name)
    | none => a.done
  | argument :: rest =>
    match pending with
    | some name =>
      if isValue argument then (a.set name argument).bind fun a => readFrom a none rest
      else .error (.noValue name)
    | none =>
      if argument = ['-', '-'] then readFiles a rest
      else
        match formOf argument with
        | .file => (a.addFile argument).bind fun a => readFrom a none rest
        | .option name (some value) => (a.set name value).bind fun a => readFrom a none rest
        | .option name none => readFrom a (some name) rest
        | .help => .ok .help
        | .version => .ok .version
        | .wrong error => .error error

/-- Read the arguments of a command line. -/
def Request.ofArguments (arguments : List String) : Except UsageError Request :=
  readFrom .blank none (arguments.map String.toList)

end BlockDiscovery.CommandLine
