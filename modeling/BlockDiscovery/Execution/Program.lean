import BlockDiscovery.Execution.Script
import BlockDiscovery.Server.Stub
import BlockDiscovery.Shell.Run

/-!
# Programs and processes

The programs that can be started are scripted servers, the stub server, and the shell
with a few tools.  A process is a running program together with what it wrote and nobody
has read yet.  Once it has ended, nothing changes it but reading.
-/

namespace BlockDiscovery.Execution

open BlockDiscovery BlockDiscovery.Json BlockDiscovery.Config
open BlockDiscovery.Server (StubOptions StubEnd)
open BlockDiscovery.Shell (Interpreter)

/-! ## Programs -/

inductive Program where
  | script (player : Player)
  /-- The stub server with all its input and how much of its output was told. -/
  | stub (options : StubOptions) (input : ByteArray) (told : Nat)
  | shell (s : Interpreter)

inductive Event where
  | input (bytes : ByteArray)
  | inputEnd
  | time (now : Nat)

/-- The stub server goes on; it leaves when a message tells it to, or at the end of its
input. -/
def stubResponse (options : StubOptions) (input : ByteArray) (told : Nat) (closed : Bool) :
    Program × Response :=
  -- the whole run again: only what is new of its output is told
  let run := options.run input
  let leaves := match run.finish with
    | .left _ => true
    | _ => closed
  (.stub options input run.output.size,
    ⟨run.output.extract told run.output.size, if leaves then some (exitCode run.finish.code) else none⟩)

/-- Let a program react to an event at a time; the messages that a scripted server heard
are told. -/
def Program.react (now : Nat) : Program → Event → Program × Response × List Value
  | .script player, .input bytes =>
    let (player, response, heard) := player.feed bytes
    (.script player, response, heard)
  | .script player, .inputEnd => (.script player, ⟨ByteArray.empty, some (exitCode 0)⟩, [])
  | .script player, .time _ => (.script player, .idle, [])
  | .stub options input told, .input bytes =>
    let (program, response) := stubResponse options (input ++ bytes) told false
    (program, response, [])
  | .stub options input told, .inputEnd =>
    let (program, response) := stubResponse options input told true
    (program, response, [])
  | .stub options input told, .time _ => (.stub options input told, .idle, [])
  | .shell s, .input bytes =>
    let (s, response) := s.feed bytes
    (.shell s, response, [])
  | .shell s, .inputEnd =>
    let (s, response) := s.close now
    (.shell s, response, [])
  | .shell s, .time now =>
    let (s, response) := s.wake now
    (.shell s, response, [])

/-- When a program goes on by itself. -/
def Program.alarm? : Program → Option Nat
  | .shell s => s.alarm?
  | .script _ | .stub _ _ _ => none

/-! ## Processes -/

structure Child where
  program : Program
  /-- What was written and not read yet. -/
  output : ByteArray
  ending : Option Ending

namespace Child

/-- A process that has just started. -/
def begun (started : Program × Response) : Child :=
  ⟨started.1, started.2.output, started.2.ending⟩

def react (p : Child) (now : Nat) (e : Event) : Child × List Value :=
  if p.ending.isSome then (p, [])
  else
    let (program, response, heard) := p.program.react now e
    (⟨program, p.output ++ response.output, response.ending⟩, heard)

def kill (p : Child) : Child := { p with ending := p.ending.or (some none) }

/-- When a process goes on by itself. -/
def alarm? (p : Child) : Option Nat := if p.ending.isSome then none else p.program.alarm?

/-- Read all that a process wrote. -/
def takeOutput (p : Child) : ByteArray × Child := (p.output, { p with output := ByteArray.empty })

end Child

end BlockDiscovery.Execution
