import BlockDiscovery.CommandLine.Command

/-!
# The program

Reads the files that the command line names, runs the command on them, and prints its
reports.  Servers run inside this program: the stub server, under the name
`stub-server`, and the tools of the shell.
-/

open BlockDiscovery BlockDiscovery.CommandLine
open BlockDiscovery.Files (FileTree)

namespace BlockDiscovery.Program

/-- Add to a tree what stands at a path below a directory. -/
def addPath (directory : Uri.Path) (tree : FileTree) (path : Uri.Path) : IO FileTree := do
  let whole := directory.under path
  let name := String.ofList whole.display
  try
    let bytes ← IO.FS.readBinFile name
    return tree.add (Execution.Machine.straighten whole.components) (.file bytes)
  catch _ => return tree

/-- The files that a command line needs. -/
def filesFor (directory : Uri.Path) (home : String) (arguments : List String) : IO FileTree := do
  let here := FileTree.empty.add (Execution.Machine.straighten directory.components) .directory
  match Request.ofArguments arguments with
  | .ok (.discover a) =>
    let config := a.config.getD (Config.defaultPath home)
    (config :: a.files).foldlM (addPath directory) here
  | _ => return here

/-- The variables that the files refer to, with their values. -/
def environmentFor (tree : FileTree) : IO Config.Environment := do
  let texts := tree.nodes.filterMap fun (_, node) =>
    match node with
    | .file bytes => String.fromUTF8? bytes
    | .directory => none
  let names := ["HOME", "PATH"] ++
    texts.flatMap fun text => (Config.Environment.references text.toList).map String.ofList
  names.filterMapM fun name => do
    return (← IO.getEnv name).map fun value => (name, value)

/-- The machine that the command runs on. -/
def machineFor (arguments : List String) : IO Execution.Machine := do
  let directory := Uri.Path.ofString (← IO.currentDir).toString
  let files ← filesFor directory ((← IO.getEnv "HOME").getD "") arguments
  return {
    files, directory, environment := ← environmentFor files
    programs := ((Uri.Path.ofString "/usr/bin/stub-server").components, .stub) :: Execution.tools }

def usage : String :=
  "usage: block-discovery [--config PATH] [--command CMD] [--language ID] FILE..."

def version : String := "block-discovery 0.0.0"

def announce : Outcome → IO Unit
  | .help => IO.println usage
  | .version => IO.println version
  | .misused error => IO.eprintln ("error: " ++ error.message ++ "\n\n" ++ usage)
  | .misconfigured error => IO.eprintln ("error: " ++ String.ofList error.message)
  | .finished reports _ => reports.forM fun r => IO.println r.toValue.compact

end BlockDiscovery.Program

/-- Discover the blocks of the files on the command line. -/
def main (arguments : List String) : IO UInt32 := do
  let outcome := run (← Program.machineFor arguments) arguments
  Program.announce outcome
  return UInt32.ofNat outcome.code
