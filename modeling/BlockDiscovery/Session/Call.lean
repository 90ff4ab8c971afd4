import BlockDiscovery.Session.Connection

/-!
# Calls on a connection

A call goes from one place where it waits to the next.  `Connection.poll` lets a call
take one step if what it waits for has come.  Starting and stopping the server hold the
session, so that calls which want it queue up; calls are interleaved only where they
wait.
-/

namespace BlockDiscovery.Session

open BlockDiscovery BlockDiscovery.Json BlockDiscovery.Protocol BlockDiscovery.Config

/-- What a connection needs from the system. -/
structure Host where
  /-- Try to start a server; the reason is told if that fails. -/
  launch : ServerSettings → Option String
  /-- The current directory. -/
  directory : Uri.Path
  /-- The number of this process. -/
  processId : Value

namespace Connection

/-! ## Starting calls -/

/-- Start a call at a stage. -/
def addCall (c : Connection) (ticket : Ticket) (stage : CallStage) : Connection :=
  { c with calls := c.calls ++ [(ticket, stage)] }

/-- Ask for a ready connection, which starts the server if nobody has. -/
def ensureReady (c : Connection) (ticket : Ticket) : Connection :=
  { c.addCall ticket .queuing with lock := c.lock ++ [ticket] }

def shutdown (c : Connection) (ticket : Ticket) : Connection :=
  { c.addCall ticket .closingQueue with lock := c.lock ++ [ticket] }

/-- The notification that brings a text to the server, and the version it has. -/
def syncMessage (c : Connection) (uri text : String) : DocumentSync × Nat × String × Value :=
  match lookup uri c.documents with
  | some version =>
    (.changed (version + 1), version + 1, "textDocument/didChange",
      didChangeParams uri (version + 1 : Nat) text)
  | none =>
    (.opened, 1, "textDocument/didOpen", didOpenParams uri c.settings.language 1 text)

/-- Ask to bring a text to the server: the document is opened the first time and changed
from then on.  A connection that is not ready refuses at once. -/
def syncDocument (c : Connection) (ticket : Ticket) (uri text : String) :
    Connection × Option CallResult :=
  match c.lifecycle.checkReady with
  | .error failure => (c, some (.synced (.error failure)))
  | .ok () =>
    let (kind, version, method, params) := c.syncMessage uri text
    -- the version is used up, whatever becomes of the notification
    let c := { c with documents := insertEntry uri version c.documents }
    ((c.dispatched (c.dispatcher.notify ticket method (some params))).addCall ticket (.syncing kind),
      none)

/-- Give up bringing a text to the server. -/
def cancelSync (c : Connection) (ticket : Ticket) : Connection :=
  { c with
    dispatcher := c.dispatcher.cancel ticket
    calls := c.calls.filter fun call => call.1 ≠ ticket
    completions := c.completions.filter fun d => d.ticket ≠ ticket }

/-! ## Steps of calls -/

def setStage (c : Connection) (ticket : Ticket) (stage : CallStage) : Connection :=
  { c with calls := c.calls.map fun call => if call.1 = ticket then (ticket, stage) else call }

def endCall (c : Connection) (ticket : Ticket) : Connection :=
  { c with calls := c.calls.filter fun call => call.1 ≠ ticket }

/-- Leave the queue for the session. -/
def unlock (c : Connection) (ticket : Ticket) : Connection :=
  { c with lock := c.lock.filter (· ≠ ticket) }

/-- Take up the outcome of a dispatcher task. -/
def takeOutcome (c : Connection) (ticket : Ticket) : Option (Outcome × Connection) :=
  (c.completions.find? fun d => d.ticket = ticket).map fun d =>
    (d.outcome, { c with completions := c.completions.filter fun d => d.ticket ≠ ticket })

/-- End a call that could not make the connection ready. -/
def refuse (c : Connection) (ticket : Ticket) (failure : Failure) : Connection × Option CallResult :=
  ((c.unlock ticket).endCall ticket, some (.ready (.error failure)))

/-- The handshake has failed: so does the connection, and the server is let go. -/
def handshakeFailed (c : Connection) (ticket : Ticket) (failure : Failure) :
    Connection × Option CallResult :=
  let reason := "initialize failed: " ++ failure.message
  (c.failWith reason (.connectionFailed reason)).releaseServer.refuse ticket failure

/-- The directory that is the root of the workspace. -/
def workspaceRoot (s : ServerSettings) (host : Host) : Except Failure Uri.Path :=
  match s.root.or s.directory with
  | none => .ok host.directory
  | some root =>
    let path := Uri.Path.ofString root
    if path.isEmpty then .error (.io "cannot make an empty path absolute")
    else .ok (host.directory.under path)

def rootUri (s : ServerSettings) (host : Host) : Except Failure String :=
  (workspaceRoot s host).bind fun root =>
    match root.uri? with
    | some uri => .ok (String.ofList uri)
    | none => .error (.invalidPath root)

/-- Send the handshake to the server that was just started. -/
def beginHandshake (c : Connection) (host : Host) (ticket : Ticket) :
    Connection × Option CallResult :=
  match rootUri c.settings host with
  | .error failure => c.handshakeFailed ticket failure
  | .ok uri =>
    let params := handshakeParams host.processId uri c.settings.initOptions
    let result := c.dispatcher.send ticket "initialize" (some params) c.settings.requestTimeout
    ((c.dispatched result).setStage ticket .handshaking, none)

def start (c : Connection) (host : Host) (ticket : Ticket) : Connection × Option CallResult :=
  -- the session is out until the handshake is over
  let (_, c) := { c with session := .finished }.move .starting
  match host.launch c.settings with
  | some reason =>
    let failure := Failure.spawn c.settings.command reason
    let (_, c) := c.move (.failed failure.message)
    (c.abandon failure.message (.connectionFailed failure.message)).refuse ticket failure
  | none =>
    let (_, c) := { c with server := some .fresh }.move .initializing
    c.beginHandshake host ticket

/-- The handshake is over: the connection becomes ready, unless it has ended
meanwhile. -/
def finishHandshake (c : Connection) (ticket : Ticket) : Connection × Option CallResult :=
  let (moved, c) := c.move .ready
  match moved, c.lifecycle.checkReady with
  | false, .error failure => c.releaseServer.refuse ticket failure
  | _, _ => (({ c with session := .running }.unlock ticket).setStage ticket .awaitingReady, none)

/-- A call that wants a ready connection has the session. -/
def takeTurn (c : Connection) (host : Host) (ticket : Ticket) : Connection × Option CallResult :=
  match c.session with
  | .idle => c.start host ticket
  -- an earlier call has started the server, or tried to
  | _ => ((c.unlock ticket).setStage ticket .awaitingReady, none)

/-- The last step of a shutdown. -/
def finishShutdown (c : Connection) (ticket : Ticket) : Connection × Option CallResult :=
  let c := c.releaseServer
  let (moved, c) := c.move .closed
  let c := if moved then c.abandon "connection closed" .connectionClosed else c
  ((c.unlock ticket).endCall ticket, some .stopped)

/-- Wait for the process to exit on its own. -/
def awaitExit (c : Connection) (ticket : Ticket) : Connection :=
  c.setStage ticket (.awaitingExit (c.clock + c.settings.shutdownGrace))

/-- A call that wants to shut down has the session.  A server that was never ready is
killed at once. -/
def beginShutdown (c : Connection) (ticket : Ticket) : Connection × Option CallResult :=
  match c.session with
  | .running =>
    let (moved, c) := { c with session := .finished }.move .shuttingDown
    if moved then
      let result := c.dispatcher.send ticket "shutdown" none c.settings.shutdownGrace
      ((c.dispatched result).setStage ticket .requestingShutdown, none)
    -- a connection that has ended is asked for nothing
    else ((c.withServer fun s => { s with killed := true }).awaitExit ticket, none)
  | .idle => { c.dropWriter with session := .finished }.finishShutdown ticket
  | .finished => c.finishShutdown ticket

/-- Whether the exit of the process is known, or there is no process. -/
def hasExited (c : Connection) : Bool := c.server.all fun s => s.exit.isSome

/-- Whether the writer takes no more items. -/
def hasStoppedWriting (c : Connection) : Bool := c.server.all fun s => !s.writing

/-- Let the call of a ticket take a step from a stage, if it can. -/
def pollStage (c : Connection) (host : Host) (ticket : Ticket) :
    CallStage → Option (Connection × Option CallResult)
  | .queuing => if c.lock.head? = some ticket then some (c.takeTurn host ticket) else none
  | .handshaking =>
    (c.takeOutcome ticket).map fun (outcome, c) =>
      match outcome with
      | .error failure => c.handshakeFailed ticket failure
      | .ok _ =>
        let result := c.dispatcher.notify ticket "initialized" (some (.object []))
        ((c.dispatched result).setStage ticket .announcing, none)
  | .announcing =>
    (c.takeOutcome ticket).map fun (outcome, c) =>
      match outcome with
      | .error failure => c.handshakeFailed ticket failure
      | .ok _ => c.finishHandshake ticket
  | .awaitingReady =>
    if c.phase.isSettled then some (c.endCall ticket, some (.ready c.lifecycle.checkReady)) else none
  | .syncing kind =>
    (c.takeOutcome ticket).map fun (outcome, c) =>
      (c.endCall ticket, some (.synced (outcome.map fun _ => kind)))
  | .closingQueue => if c.lock.head? = some ticket then some (c.beginShutdown ticket) else none
  | .requestingShutdown =>
    (c.takeOutcome ticket).map fun (_, c) =>
      -- the server is told to exit, also when it gave no answer
      ((c.dispatched (c.dispatcher.notify ticket "exit" none)).setStage ticket .announcingExit, none)
  | .announcingExit =>
    (c.takeOutcome ticket).map fun (_, c) =>
      ((c.dispatched (c.dispatcher.enqueue ticket .close)).setStage ticket .closingInput, none)
  | .closingInput =>
    (c.takeOutcome ticket).map fun (_, c) =>
      (c.setStage ticket (.awaitingWriter (c.clock + c.settings.shutdownGrace)), none)
  | .awaitingWriter deadline =>
    if c.hasStoppedWriting ∨ deadline ≤ c.clock then some (c.awaitExit ticket, none) else none
  | .awaitingExit deadline =>
    if c.hasExited then some (c.finishShutdown ticket)
    else if deadline ≤ c.clock then
      some ((c.withServer fun s => { s with killed := true }).setStage ticket .awaitingKill, none)
    else none
  | .awaitingKill => if c.hasExited then some (c.finishShutdown ticket) else none

def stage? (c : Connection) (ticket : Ticket) : Option CallStage :=
  (c.calls.find? fun call => call.1 = ticket).map Prod.snd

/-- Let the call of a ticket take a step, if it can. -/
def poll (c : Connection) (host : Host) (ticket : Ticket) :
    Option (Connection × Option CallResult) :=
  (c.stage? ticket).bind (c.pollStage host ticket)

/-- The times at which something happens by itself. -/
def deadlines (c : Connection) : List Nat :=
  let calls := c.calls.filterMap fun call =>
    match call.2 with
    | .awaitingWriter deadline | .awaitingExit deadline => some deadline
    | _ => none
  let reader := match c.server.map ServerHandle.reader with
    | some (.ended deadline) => [deadline]
    | _ => []
  calls ++ reader ++ c.dispatcher.deadlines ++ c.router.deadlines

end Connection

end BlockDiscovery.Session
