import BlockDiscovery.Block.Report
import BlockDiscovery.Diagnostic.Adaptation
import BlockDiscovery.Files.Tree
import BlockDiscovery.Session.Call

/-!
# The discovery client

A client finds the blocks of files through one connection at a time.  A discovery reads
the file, makes the connection ready, shows the text to the server, collects the
diagnostics and turns those with a payload into blocks.  A connection that has ended is
replaced on the next discovery.
-/

namespace BlockDiscovery.Session

open BlockDiscovery BlockDiscovery.Json BlockDiscovery.Protocol BlockDiscovery.Config
open BlockDiscovery.Block (Report)
open BlockDiscovery.Files (FileTree FileError)
open BlockDiscovery.Uri (Path)

/-! ## State -/

/-- How far a task of the client has come. -/
inductive TaskStage where
  /-- A discovery that waits for a ready connection. -/
  | ensuring (uri text : String)
  /-- A discovery that shows its text to the server. -/
  | syncing (uri : String)
  /-- A discovery that collects diagnostics. -/
  | collecting (uri : String)
  /-- A shutdown. -/
  | stopping
  deriving Repr, DecidableEq, Inhabited

/-- A task of the client and the connection it uses, by its number. -/
structure Task where
  ticket : Ticket
  connection : Nat
  stage : TaskStage
  deriving Repr, DecidableEq, Inhabited

/-- What a task comes to. -/
inductive TaskResult where
  | report (r : Report)
  /-- A discovery that could not go on. -/
  | failed (failure : Failure)
  | stopped

/-- The report of a discovery; a failure is reported by its message. -/
def TaskResult.report? : TaskResult → Option Report
  | .report r => some r
  | .failed failure => some (.failure failure.message)
  | .stopped => none

/-- A client with all connections it ever made; one of them is the current one. -/
structure Client where
  settings : ServerSettings
  registry : Diagnostic.Registry
  connections : List Connection
  current : Option Nat
  tasks : List Task
  finished : List (Ticket × TaskResult)
  clock : Nat

namespace Client

/-- A client that has not connected yet. -/
def fresh (settings : ServerSettings) (registry : Diagnostic.Registry) : Client :=
  ⟨settings, registry, [], none, [], [], 0⟩

def connection? (c : Client) : Option Connection := c.current.bind (c.connections[·]?)

def phase (c : Client) : Phase := (c.connection?.map Connection.phase).getD .uninitialized

def stats? (c : Client) : Option Stats := c.connection?.map fun k => k.dispatcher.stats

def setConnection (c : Client) (n : Nat) (k : Connection) : Client :=
  { c with connections := c.connections.set n k }

/-- Make a new connection the current one; its number is told. -/
def replace (c : Client) : Client × Nat :=
  let n := c.connections.length
  ({ c with connections := c.connections ++ [.fresh c.settings c.clock], current := some n }, n)

/-- The number of a connection that has not ended: the current one or a new one. -/
def obtain (c : Client) : Client × Nat :=
  match c.current, c.connection? with
  | some n, some k => if k.phase.isTerminal then c.replace else (c, n)
  | _, _ => c.replace

def finish (c : Client) (ticket : Ticket) (result : TaskResult) : Client :=
  { c with
    tasks := c.tasks.filter fun t => t.ticket ≠ ticket
    finished := c.finished ++ [(ticket, result)] }

def failTask (c : Client) (ticket : Ticket) (failure : Failure) : Client :=
  c.finish ticket (.failed failure)

def setStage (c : Client) (ticket : Ticket) (stage : TaskStage) : Client :=
  { c with tasks := c.tasks.map fun t => if t.ticket = ticket then { t with stage } else t }

/-! ## Starting tasks -/

/-- The report on a file that cannot be read. -/
def unreadable (path : Path) (error : FileError) : Report :=
  let shown := String.ofList path.display
  match error with
  | .notFound => .failure ("File not found: " ++ shown)
  | error => .failure ("Failed to read " ++ shown ++ ": " ++ error.message)

/-- Start to discover the blocks of a file. -/
def discover (c : Client) (host : Host) (tree : FileTree) (ticket : Ticket) (path : Path) :
    Client :=
  match tree.readText host.directory path with
  | .error e => c.finish ticket (.report (unreadable path e))
  | .ok text =>
    let whole := host.directory.under path
    match whole.uri? with
    | none => c.failTask ticket (.invalidPath whole)
    | some uri =>
      let (c, n) := c.obtain
      match c.connections[n]? with
      -- not reached: the number is that of a connection
      | none => c
      | some k =>
        let c := c.setConnection n (k.ensureReady ticket)
        { c with tasks := c.tasks ++ [⟨ticket, n, .ensuring (String.ofList uri) text⟩] }

/-- Start to shut down the current connection. -/
def cleanup (c : Client) (ticket : Ticket) : Client :=
  match c.current, c.connection? with
  | some n, some k =>
    let c := c.setConnection n (k.shutdown ticket)
    { c with tasks := c.tasks ++ [⟨ticket, n, .stopping⟩] }
  | _, _ => c.finish ticket .stopped

/-! ## Steps of tasks -/

/-- A discovery has collected diagnostics.  That the connection failed meanwhile is an
error; that it was shut down is not. -/
def conclude (c : Client) (k : Connection) (ticket : Ticket) (uri : String)
    (diagnostics : List Protocol.Diagnostic) : Client :=
  match k.phase with
  | .failed reason => c.failTask ticket (.connectionFailed reason)
  | _ =>
    c.finish ticket (.report (.found (c.registry.blocks c.settings.language uri diagnostics)))

/-- A discovery has shown its text to the server. -/
def afterSync (c : Client) (n : Nat) (k : Connection) (ticket : Ticket) (uri : String) :
    Except Failure DocumentSync → Client
  | .error failure => (c.setConnection n (k.unwatch ticket)).failTask ticket failure
  | .ok _ => (c.setConnection n (k.collect ticket)).setStage ticket (.collecting uri)

/-- A discovery has a ready connection, or it cannot get one. -/
def afterReady (c : Client) (n : Nat) (k : Connection) (ticket : Ticket) (uri text : String) :
    Except Failure Unit → Client
  | .error failure => (c.setConnection n k).failTask ticket failure
  | .ok () =>
    -- watched before the text is shown, so that no publication is missed
    match (k.watch ticket uri).syncDocument ticket uri text with
    | (k, some (.synced outcome)) => c.afterSync n k ticket uri outcome
    | (k, _) => (c.setConnection n k).setStage ticket (.syncing uri)

/-- The call that a task waits for has ended. -/
def afterCall (c : Client) (n : Nat) (k : Connection) (ticket : Ticket) (stage : TaskStage)
    (result : CallResult) : Client :=
  match stage, result with
  | .ensuring uri text, .ready outcome => c.afterReady n k ticket uri text outcome
  | .syncing uri, .synced outcome => c.afterSync n k ticket uri outcome
  | _, _ => (c.setConnection n k).finish ticket .stopped

/-- Let a task take a step, if it can. -/
def pollTask (c : Client) (host : Host) (t : Task) : Option Client :=
  (c.connections[t.connection]?).bind fun k =>
    match t.stage with
    | .collecting uri =>
      (k.takeCollected t.ticket).map fun (diagnostics, k) =>
        let k := k.unwatch t.ticket
        (c.setConnection t.connection k).conclude k t.ticket uri diagnostics
    | stage =>
      (k.poll host t.ticket).map fun (k, result) =>
        match result with
        | none => c.setConnection t.connection k
        | some result => c.afterCall t.connection k t.ticket stage result

/-- Let the first of the given tasks that can take a step take it. -/
def pollFirst (c : Client) (host : Host) : List Task → Option Client
  | [] => none
  | t :: rest => (c.pollTask host t).or (pollFirst c host rest)

/-- Let tasks take steps until none can; `fuel` bounds their number. -/
def run (host : Host) : Nat → Client → Client
  | 0, c => c
  | fuel + 1, c =>
    match c.pollFirst host c.tasks with
    | none => c
    | some c => run host fuel c

/-- Let go of the connections that are neither current nor used by a task. -/
def reap (c : Client) : Client :=
  { c with
    connections := c.connections.zipIdx.map fun (k, n) =>
      if c.current = some n ∨ c.tasks.any fun t => t.connection = n then k else k.releaseServer }

def advanceTo (c : Client) (time : Nat) : Client :=
  { c with clock := time, connections := c.connections.map fun k => k.advanceTo time }

/-- Take up what a task has come to. -/
def result? (c : Client) (ticket : Ticket) : Option TaskResult :=
  (c.finished.find? fun r => r.1 = ticket).map Prod.snd

end Client

end BlockDiscovery.Session
