import BlockDiscovery.Files.Tree
import BlockDiscovery.Execution.Program
import BlockDiscovery.Protocol.Failure
import BlockDiscovery.Session.Call

/-!
# The machine that processes run on

A machine has files, a working directory, an environment and programs.  A command with a
slash names a program below the working directory of the server; any other command is
looked up in the directories of the search path, which the environment of the server may
replace.
-/

namespace BlockDiscovery.Execution

open BlockDiscovery BlockDiscovery.Config
open BlockDiscovery.Files (FileTree Place)
open BlockDiscovery.Protocol (Failure)
open BlockDiscovery.Server (StubOptions)
open BlockDiscovery.Shell (Interpreter)
open BlockDiscovery.Uri (Path)

/-! ## Programs on disk -/

inductive Executable where
  | script (s : Script)
  | stub
  /-- A tool of the shell, by its name. -/
  | tool (name : String)

/-- What processes run on. -/
structure Machine where
  files : FileTree
  directory : Path
  environment : Environment
  /-- Executables by their places. -/
  programs : List (Place × Executable)

/-- The tools that every machine has. -/
def toolNames : List String := ["sh", "cat", "echo", "false", "kill", "printf", "pwd", "sleep", "true"]

def tools : List (Place × Executable) :=
  ["/bin/", "/usr/bin/"].flatMap fun directory =>
    toolNames.map fun name => ((Path.ofString (directory ++ name)).components, .tool name)

/-- The search path of an environment without one. -/
def standardSearchPath : String := "/usr/local/bin:/usr/bin:/bin"

namespace Machine

/-! ## Finding a program -/

/-- Components without dots: two dots lead to the directory above. -/
def straighten (components : Place) : Place :=
  components.foldl
    (fun done c => if c = [Uri.dot, Uri.dot] then done.dropLast else done ++ [c]) []

def executable? (m : Machine) (p : Path) : Option Executable :=
  let place := straighten (m.directory.under p).components
  -- a slash at the end asks for a directory
  if p.isEmpty || p.bytes.getLast? = some Uri.slash then none
  else (m.programs.find? fun entry => entry.1 = place).map Prod.snd

/-- The directory in which a server is to run, as it was asked for. -/
def serverDirectory (m : Machine) (settings : ServerSettings) : Path :=
  (settings.directory.map Path.ofString).getD m.directory

/-- The directories of the search path for a server. -/
def searchPath (m : Machine) (settings : ServerSettings) : List Path :=
  let text := ((Environment.get? settings.environment "PATH").or (m.environment.get? "PATH")).getD
    standardSearchPath
  (Text.pieces ':' text.toList).map Path.ofText

/-- The executable that a command names. -/
def lookUp? (m : Machine) (settings : ServerSettings) : Option Executable :=
  let command := Path.ofString settings.command
  if settings.command.isEmpty then none
  else if command.bytes.contains Uri.slash then
    m.executable? ((m.serverDirectory settings).under command)
  else
    (m.searchPath settings).findSome? fun directory =>
      -- an empty entry is the current directory
      m.executable? (if directory.isEmpty then command else directory.under command)

/-! ## Starting a process -/

/-- Whether a text that the machine is given holds a zero character, which it refuses. -/
def hasZero (settings : ServerSettings) : Bool :=
  (settings.directory.toList ++ settings.args ++
    settings.environment.flatMap fun v => [v.1, v.2]).any fun s => s.toList.contains '\x00'

/-- A directory as it is printed. -/
def directoryText (place : Place) : List Char :=
  if place.isEmpty then ['/'] else (Path.ofComponents place).display

/-- The place of the working directory of a server. -/
def directoryPlace (m : Machine) (settings : ServerSettings) : Except String Place :=
  match m.files.find m.directory (m.serverDirectory settings) with
  | .ok (place, .directory) => .ok place
  | .ok (_, .file _) => .error Files.FileError.notADirectory.message
  | .error e => .error e.message

def execute (m : Machine) (settings : ServerSettings) (place : Place) (now : Nat) :
    Executable → Program × Response
  | .script script => (.script (.fresh script), perform .null script.opening)
  | .stub =>
    stubResponse (.ofEnvironment (m.environment.extend settings.environment)) ByteArray.empty 0 false
  | .tool name =>
    let (shell, response) := Interpreter.start (m.environment.extend settings.environment)
      (directoryText place) ((name :: settings.args).map String.toList) now
    (.shell shell, response)

/-- Start the process that settings describe, or say why there is none. -/
def spawn (m : Machine) (settings : ServerSettings) (now : Nat) : Except String Child :=
  match m.lookUp? settings with
  | none => .error "cannot find binary path"
  | some executable =>
    if hasZero settings then .error "nul byte found in provided data"
    else (m.directoryPlace settings).map fun place =>
      .begun (m.execute settings place now executable)

/-- The machine as a connection sees it. -/
def host (m : Machine) (processId : Json.Value) : Session.Host where
  launch := fun settings =>
    match m.spawn settings 0 with
    | .ok _ => none
    | .error reason => some reason
  directory := m.directory
  processId := processId

end Machine

end BlockDiscovery.Execution
