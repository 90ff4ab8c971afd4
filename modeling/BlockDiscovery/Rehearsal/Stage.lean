import BlockDiscovery.Execution.Machine
import BlockDiscovery.Session.Client

/-!
# Clients and their servers on one clock

A stage holds a client, the processes of its connections and the clock they share.
`Stage.next?` is one step: of the client, of a starting process, of a message on its way
to a server, of a read, or of an exit that becomes known, whichever comes first in this
order.  Time passes only when nothing else can happen, and then up to the next moment at
which something is due.
-/

namespace BlockDiscovery.Rehearsal

open BlockDiscovery BlockDiscovery.Json BlockDiscovery.Session
open BlockDiscovery.Execution (Child Machine Event)

/-- What a server received: a start counts as an entry of its own. -/
inductive Entry where
  | started
  | message (m : Value)

/-- A client and all processes it ever started, each with the number of its
connection. -/
structure Stage where
  machine : Machine
  client : Client
  processes : List (Nat × Child)
  /-- What the servers received, in order. -/
  log : List Entry
  nextTicket : Ticket

namespace Stage

/-- The process id that a client tells on a stage. -/
def processId : Value := .string "PID"

/-- A stage before anything happened. -/
def fresh (machine : Machine) (client : Client) : Stage := ⟨machine, client, [], [], 0⟩

def clock (s : Stage) : Nat := s.client.clock

/-- The machine as the client sees it. -/
def host (s : Stage) : Host := s.machine.host processId

def setProcess (s : Stage) (n : Nat) (p : Child) : Stage :=
  { s with processes := s.processes.map fun entry => if entry.1 = n then (n, p) else entry }

/-! ## Steps -/

/-- The client takes a step. -/
def clientStep? (s : Stage) : Option Stage :=
  (s.client.pollFirst s.host s.client.tasks).map fun client => { s with client := client.reap }

/-- The number of the first connection whose server is not yet running. -/
def unstarted? (s : Stage) : Option Nat :=
  (s.client.connections.zipIdx.find? fun (k, n) =>
    k.server.isSome && !s.processes.any fun entry => entry.1 = n).map Prod.snd

/-- A process starts. -/
def startStep? (s : Stage) : Option Stage :=
  s.unstarted?.map fun n =>
    let process : Child := match s.machine.spawn s.client.settings s.clock with
      | .ok p => p
      | .error _ => ⟨.script (.fresh []), ByteArray.empty, some none⟩
    let isScripted := match process.program with
      | .script _ => true
      | _ => false
    { s with
      processes := s.processes ++ [(n, process)]
      log := if isScripted then s.log ++ [.started] else s.log }

/-- A process reacts to an event. -/
def process (s : Stage) (n : Nat) (p : Child) (e : Event) : Stage :=
  let (p, heard) := p.react s.clock e
  { s.setProcess n p with log := s.log ++ heard.map .message }

/-- The writer of a connection takes an item and hands it to the process.  When the
process is gone, so is the writer. -/
def writeStep? (s : Stage) (n : Nat) (p : Child) (k : Connection) : Option Stage :=
  match k.takeItem with
  | (none, _) => none
  | (some .close, k) => some ({ s with client := s.client.setConnection n k }.process n p .inputEnd)
  | (some (.message m), k) =>
    -- the pipe is broken: the item is lost and the writer stops
    if p.ending.isSome then some { s with client := s.client.setConnection n k.dropWriter }
    else
      some ({ s with client := s.client.setConnection n k }.process n p
        (.input (Framing.encodeFrame m)))

/-- Whether a connection still reads the output of its server. -/
def isReading (k : Connection) : Bool := (k.server.map ServerHandle.reader) = some .reading

/-- Read bytes as far as the connection goes on reading. -/
def readAll (k : Connection) : List ByteArray → Connection
  | [] => k
  | bytes :: rest => if isReading k then readAll (k.read bytes) rest else k

/-- A connection reads what its server wrote. -/
def readStep? (s : Stage) (n : Nat) (p : Child) (k : Connection) : Option Stage :=
  if p.output.size = 0 then none
  else
    let (bytes, p) := p.takeOutput
    some { s.setProcess n p with client := s.client.setConnection n (readAll k (Framing.readsOf [bytes])) }

/-- A connection lets go of its server, or learns that it has exited. -/
def exitStep? (s : Stage) (n : Nat) (p : Child) (k : Connection) : Option Stage :=
  k.server.bind fun server =>
    if server.killed && p.ending.isNone then some (s.setProcess n p.kill)
    else
      match p.ending with
      | none => none
      | some code =>
        if server.exit.isSome then none
        else
          -- the output ends before the exit is known
          let k := if isReading k then k.outputEnded else k
          some { s with client := s.client.setConnection n (k.exited code).resumeReader }

/-- The first of the processes for which a step is possible takes it. -/
def processStep? (s : Stage) (step : Nat → Child → Connection → Option Stage) : Option Stage :=
  s.processes.findSome? fun (n, p) => (s.client.connections[n]?).bind (step n p)

/-- One step, if any is possible without time passing. -/
def next? (s : Stage) : Option Stage :=
  s.clientStep?
    |>.or s.startStep?
    |>.or (s.processStep? s.writeStep?)
    |>.or (s.processStep? s.readStep?)
    |>.or (s.processStep? s.exitStep?)

/-! ## Time -/

/-- The times at which something is due. -/
def dueTimes (s : Stage) : List Nat :=
  (s.client.connections.flatMap Connection.deadlines) ++
    s.processes.filterMap fun entry => entry.2.alarm?

/-- The next moment at which something is due. -/
def nextMoment? (s : Stage) : Option Nat :=
  (s.dueTimes.filter (s.clock < ·)).min?

/-- Let time pass up to a moment. -/
def advanceTo (s : Stage) (time : Nat) : Stage :=
  let s := { s with client := s.client.advanceTo time }
  s.processes.foldl (fun s (n, p) => s.process n p (.time time)) s

/-- Take steps until none is possible; `fuel` bounds their number. -/
def settle : Nat → Stage → Stage
  | 0, s => s
  | fuel + 1, s =>
    match s.next? with
    | none => s
    | some s => settle fuel s

/-- How many steps are taken without time passing, at most. -/
def stepLimit : Nat := 1000000

/-- Run until all tasks of the client have ended; `fuel` bounds how often time passes. -/
def finish : Nat → Stage → Stage
  | 0, s => s
  | fuel + 1, s =>
    let s := settle stepLimit s
    if s.client.tasks.isEmpty then s
    else
      match s.nextMoment? with
      | none => s
      | some time => finish fuel (s.advanceTo time)

/-- How often time passes, at most. -/
def momentLimit : Nat := 1000000

end Stage

end BlockDiscovery.Rehearsal
