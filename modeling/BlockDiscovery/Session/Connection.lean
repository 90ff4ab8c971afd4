import BlockDiscovery.Config.Settings
import BlockDiscovery.Framing.Reader
import BlockDiscovery.Session.Dispatcher
import BlockDiscovery.Session.Router

/-!
# A connection to a language server

The state of one connection and what happens to it from outside: messages and the end
of the server's output, framing errors, the exit of its process, the writer taking
items, and the passing of time.  A connection is used once; when it is closed or has
failed, its owner makes a new one.

Every path that ends a connection first moves the phase and then, if that was allowed,
rejects the pending requests and closes the router.
-/

namespace BlockDiscovery.Session

open BlockDiscovery BlockDiscovery.Json BlockDiscovery.Protocol BlockDiscovery.Config

/-! ## State -/

/-- How the task that reads the server's output is doing. -/
inductive ReaderState where
  | reading
  /-- The output has ended; until the deadline the exit of the process may explain
  why. -/
  | ended (deadline : Nat)
  | stopped
  deriving Repr, DecidableEq, Inhabited

/-- The server process of a connection and the tasks at its two ends. -/
structure ServerHandle where
  reader : ReaderState
  /-- Whether the writer still takes items. -/
  writing : Bool
  /-- Whether the process was told to die. -/
  killed : Bool
  /-- The exit, once it is known; its code is absent after a signal. -/
  exit : Option (Option Int)
  deriving Repr, DecidableEq, Inhabited

/-- The handle of a process that was just started. -/
def ServerHandle.fresh : ServerHandle := ⟨.reading, true, false, none⟩

/-- Who holds the server. -/
inductive SessionState where
  /-- Nobody yet. -/
  | idle
  | running
  /-- It is being started or stopped, or it is over. -/
  | finished
  deriving Repr, DecidableEq, Inhabited

/-- How a document was brought to the server. -/
inductive DocumentSync where
  | opened
  | changed (version : Nat)
  deriving Repr, DecidableEq, Inhabited

/-- How far a call has come; each stage is a place where a call waits. -/
inductive CallStage where
  /-- Make ready: wait for one's turn. -/
  | queuing
  /-- Make ready: wait for the answer to the handshake. -/
  | handshaking
  /-- Make ready: wait until the end of the handshake is in the channel. -/
  | announcing
  /-- Make ready: wait for the connection to be ready. -/
  | awaitingReady
  /-- Bring a document: wait until the notification is in the channel. -/
  | syncing (kind : DocumentSync)
  /-- Shut down: wait for one's turn. -/
  | closingQueue
  /-- Shut down: wait for the answer of the server. -/
  | requestingShutdown
  /-- Shut down: wait until the last notification is in the channel. -/
  | announcingExit
  /-- Shut down: wait until the request to close the server's input is in the
  channel. -/
  | closingInput
  /-- Shut down: wait for the writer to end. -/
  | awaitingWriter (deadline : Nat)
  /-- Shut down: wait for the process to exit. -/
  | awaitingExit (deadline : Nat)
  /-- Shut down: wait for the killed process to exit. -/
  | awaitingKill
  deriving Repr, DecidableEq, Inhabited

/-- What a call comes to. -/
inductive CallResult where
  | ready (outcome : Except Failure Unit)
  | synced (outcome : Except Failure DocumentSync)
  | stopped

structure Connection where
  settings : ServerSettings
  lifecycle : Lifecycle
  dispatcher : Dispatcher
  router : Router
  session : SessionState
  server : Option ServerHandle
  decoder : Framing.FrameDecoder
  /-- The calls that want the session, in order; the first one has it. -/
  lock : List Ticket
  /-- The last version of every document that was brought to the server. -/
  documents : List (String × Nat)
  calls : List (Ticket × CallStage)
  /-- Ends of dispatcher tasks that no call has taken up yet. -/
  completions : List Completion
  /-- Collected diagnostics that nobody has taken up yet. -/
  collected : List Collected

/-- How many messages may wait for the writer. -/
def writerCapacity : Nat := 64

/-- How long, after the end of the output, the exit of the process may take. -/
def exitAfterEnd : Nat := 500

namespace Connection

def fresh (settings : ServerSettings) (clock : Nat) : Connection where
  settings := settings
  lifecycle := .fresh
  dispatcher := { Dispatcher.fresh writerCapacity with clock }
  router := { Router.fresh with clock }
  session := .idle
  server := none
  decoder := .fresh
  lock := []
  documents := []
  calls := []
  completions := []
  collected := []

def clock (c : Connection) : Nat := c.dispatcher.clock

def phase (c : Connection) : Phase := c.lifecycle.phase

/-! ## Small steps -/

/-- Take over the result of a dispatcher operation. -/
def dispatched (c : Connection) (result : Dispatcher × List Completion) : Connection :=
  { c with dispatcher := result.1, completions := c.completions ++ result.2 }

/-- Take over the result of a router operation. -/
def routed (c : Connection) (result : Router × List Collected) : Connection :=
  { c with router := result.1, collected := c.collected ++ result.2 }

/-- Change what is known of the server process. -/
def withServer (c : Connection) (change : ServerHandle → ServerHandle) : Connection :=
  { c with server := c.server.map change }

/-- Move the phase; the flag says whether it changed. -/
def move (c : Connection) (next : Phase) : Bool × Connection :=
  let (moved, lifecycle) := c.lifecycle.move next
  (moved, { c with lifecycle })

/-- Reject the pending requests and close the router. -/
def abandon (c : Connection) (reason : String) (failure : Failure) : Connection :=
  let (_, result) := c.dispatcher.failAll reason failure
  let c := c.dispatched result
  c.routed c.router.close.run

/-- Fail, and clean up if that was allowed. -/
def failWith (c : Connection) (reason : String) (failure : Failure) : Connection :=
  let (moved, lifecycle) := c.lifecycle.fail reason
  let c := { c with lifecycle }
  if moved then c.abandon reason failure else c

/-- Fail because of an event that a shutdown would explain, and clean up if that was
allowed. -/
def failUnexpectedly (c : Connection) (reason : String) (failure : Failure) : Connection :=
  let (moved, lifecycle) := c.lifecycle.failUnexpected reason
  let c := { c with lifecycle }
  if moved then c.abandon reason failure else c

/-- The writer goes away. -/
def dropWriter (c : Connection) : Connection :=
  (c.dispatched c.dispatcher.dropWriter).withServer fun s => { s with writing := false }

/-- Let go of the server: both tasks end, and the process is told to die. -/
def releaseServer (c : Connection) : Connection :=
  match c.server with
  | none => c
  | some _ =>
    c.dropWriter.withServer fun s => { s with reader := .stopped, killed := true }

/-! ## Events -/

def onExit (c : Connection) (code : Option Int) : Connection :=
  let failure := Failure.processExited code
  c.failUnexpectedly failure.message failure

/-- The exit of the process becomes known. -/
def exited (c : Connection) (code : Option Int) : Connection :=
  (c.withServer fun s => { s with exit := some code }).onExit code

/-- The output of the server ends. -/
def outputEnded (c : Connection) : Connection :=
  c.withServer fun s => { s with reader := .ended (c.clock + exitAfterEnd) }

/-- The reason of a failure when the output ended and the process lives on. -/
def endedReason : String := "language server closed its output"

/-- After the end of the output, go on when the exit is known or the time is over. -/
def resumeReader (c : Connection) : Connection :=
  match c.server with
  | some s =>
    match s.reader, s.exit with
    -- the exit says more than the end of the output
    | .ended _, some code =>
      (c.withServer fun s => { s with reader := .stopped }).onExit code
    | .ended deadline, none =>
      if deadline ≤ c.clock then
        (c.withServer fun s => { s with reader := .stopped }).failUnexpectedly endedReason
          (.connectionFailed endedReason)
      else c
    | _, _ => c
  | none => c

/-- The output of the server cannot be read on. -/
def readFailed (c : Connection) (failure : Failure) : Connection :=
  let reason := "reading from language server: " ++ failure.message
  (c.withServer fun s => { s with reader := .stopped }).failWith reason (.connectionFailed reason)

/-- Act on one message of the server.  A request is answered at once if there is room
for the answer. -/
def receive (c : Connection) (message : Value) : Connection :=
  match Incoming.ofValue? message with
  | none => c
  | some (.response id body) => c.dispatched (c.dispatcher.resolve id body).2
  | some (.request id method) =>
    -- an answer without room is lost: the reader never waits for the writer
    { c with dispatcher := (c.dispatcher.tryEnqueue (methodNotFound id method)).2 }
  | some (.notification method params) => c.routed (c.router.route method params).run

/-- Take in one read of the server's output. -/
def read (c : Connection) (bytes : ByteArray) : Connection :=
  match c.decoder.feed bytes with
  | (.ok messages, decoder) => messages.foldl receive { c with decoder }
  -- messages of the same read that stand before the fault are lost with it
  | (.error error, decoder) => { c with decoder }.readFailed (.framing error)

/-- The writer takes the next item.  After the request to close the server's input it
goes away. -/
def takeItem (c : Connection) : Option Item × Connection :=
  let (item, result) := c.dispatcher.takeItem
  let c := c.dispatched result
  match item with
  | some .close => (item, c.dropWriter)
  | item => (item, c)

def advanceTo (c : Connection) (time : Nat) : Connection :=
  let c := c.dispatched (c.dispatcher.advanceTo time)
  (c.routed (c.router.advanceTo time)).resumeReader

/-! ## Watching -/

def watch (c : Connection) (ticket : Ticket) (uri : String) : Connection :=
  { c with router := c.router.watch ticket uri }

def unwatch (c : Connection) (ticket : Ticket) : Connection :=
  { c with router := c.router.unwatch ticket }

/-- Start to collect the diagnostics of a watch. -/
def collect (c : Connection) (ticket : Ticket) : Connection :=
  c.routed (c.router.collect ticket ticket c.settings.diagnosticsTimeout c.settings.settleTime).run

/-- Take up what a collection has found. -/
def takeCollected (c : Connection) (ticket : Ticket) : Option (List Diagnostic × Connection) :=
  (c.collected.find? fun d => d.ticket = ticket).map fun d =>
    (d.diagnostics, { c with collected := c.collected.filter fun d => d.ticket ≠ ticket })

end Connection

end BlockDiscovery.Session
