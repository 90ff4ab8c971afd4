import BlockDiscovery.Rehearsal.Stage

/-!
# Performances

A performance takes a client through cues: discoveries, alone or two at a time, files
that are written, and clean-ups.
-/

namespace BlockDiscovery.Rehearsal

open BlockDiscovery BlockDiscovery.Session
open BlockDiscovery.Block (Report)
open BlockDiscovery.Uri (Path)

/-- What is to happen next. -/
inductive Cue where
  /-- Discover the blocks of files, all at the same time. -/
  | discover (paths : List Path)
  | write (path : Path) (bytes : ByteArray)
  | cleanup

namespace Stage

/-- Start to discover the blocks of a file. -/
def beginDiscovery (s : Stage) (path : Path) : Stage :=
  { s with
    client := s.client.discover s.host s.machine.files s.nextTicket path
    nextTicket := s.nextTicket + 1 }

def report? (s : Stage) (ticket : Ticket) : Option Report :=
  (s.client.result? ticket).bind TaskResult.report?

/-- Discover the blocks of files at the same time; their reports come in order. -/
def discover (s : Stage) (paths : List Path) : Stage × List Report :=
  let first := s.nextTicket
  let s := finish momentLimit (paths.foldl beginDiscovery s)
  (s, (List.range paths.length).filterMap fun n => s.report? (first + n))

def cleanup (s : Stage) : Stage :=
  finish momentLimit
    { s with client := s.client.cleanup s.nextTicket, nextTicket := s.nextTicket + 1 }

def write (s : Stage) (path : Path) (bytes : ByteArray) : Stage :=
  let place := Execution.Machine.straighten (s.machine.directory.under path).components
  { s with machine := { s.machine with files := s.machine.files.add place (.file bytes) } }

/-- Follow a cue; the reports of discoveries are told. -/
def follow (s : Stage) : Cue → Stage × List Report
  | .discover paths => s.discover paths
  | .write path bytes => (s.write path bytes, [])
  | .cleanup => (s.cleanup, [])

end Stage

end BlockDiscovery.Rehearsal
