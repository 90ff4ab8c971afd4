import BlockDiscovery.CommandLine.Arguments
import BlockDiscovery.Rehearsal.Performance

/-!
# The command

The command discovers the blocks of files, one after another, with the server that the
configuration describes, and prints one report per file.  It fails when any report is a
failure.
-/

namespace BlockDiscovery.CommandLine

open BlockDiscovery.Block (Report)
open BlockDiscovery.Config (ConfigError FileSettings)
open BlockDiscovery.Execution (Machine)
open BlockDiscovery.Rehearsal (Entry Stage)

/-- What a run of the command comes to. -/
inductive Outcome where
  | help
  | version
  | misused (error : UsageError)
  | misconfigured (error : ConfigError)
  /-- The reports in order, and what the servers received. -/
  | finished (reports : List Report) (log : List Entry)

namespace Outcome

/-- The reports that are printed. -/
def reports : Outcome → List Report
  | .finished reports _ => reports
  | .help | .version | .misused _ | .misconfigured _ => []

/-- What the servers received. -/
def log : Outcome → List Entry
  | .finished _ log => log
  | .help | .version | .misused _ | .misconfigured _ => []

def code : Outcome → Nat
  | .help | .version => 0
  | .misused _ => 2
  | .misconfigured _ => 1
  | .finished reports _ => if reports.all Report.success then 0 else 1

end Outcome

/-- Discover the blocks of files one after another. -/
def discoverAll (s : Stage) : List Uri.Path → Stage × List Report
  | [] => (s, [])
  | path :: rest =>
    let (s, first) := s.discover [path]
    let (s, others) := discoverAll s rest
    (s, first ++ others)

/-- Run the command for arguments that were read. -/
def runArguments (m : Machine) (a : Arguments) : Except ConfigError Outcome := do
  let file ← FileSettings.load m.files m.directory m.environment a.config
  let settings ← FileSettings.resolve file a.overrides m.environment
  let (stage, reports) := discoverAll (.fresh m (.fresh settings .standard)) a.files
  return .finished reports stage.cleanup.log

def run (m : Machine) (arguments : List String) : Outcome :=
  match Request.ofArguments arguments with
  | .error error => .misused error
  | .ok .help => .help
  | .ok .version => .version
  | .ok (.discover a) =>
    match runArguments m a with
    | .error error => .misconfigured error
    | .ok outcome => outcome

end BlockDiscovery.CommandLine
