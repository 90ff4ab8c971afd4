import BlockDiscovery.Session.Call

/-! # The course of a connection

A course is what becomes of a new connection when one thing after another happens to it: calls
are asked for and go on, the server writes, ends its output or exits, the writer takes items or
goes away, and time passes.  One incident is over before the next begins, so calls are
interleaved only where they wait.
-/

namespace BlockDiscovery.Session

open BlockDiscovery.Json BlockDiscovery.Protocol BlockDiscovery.Config

/-- What can happen to a connection. -/
inductive Incident where
  | ensureReady (ticket : Ticket)
  | shutdown (ticket : Ticket)
  | syncDocument (ticket : Ticket) (uri text : String)
  | cancelSync (ticket : Ticket)
  /-- A call goes on, if what it waits for has come. -/
  | poll (host : Host) (ticket : Ticket)
  | exited (code : Option Int)
  | outputEnded
  | resumeReader
  | read (bytes : ByteArray)
  | readFailed (failure : Failure)
  | takeItem
  | dropWriter
  | releaseServer
  /-- Time passes. -/
  | advance (milliseconds : Nat)
  | watch (ticket : Ticket) (uri : String)
  | unwatch (ticket : Ticket)
  | collect (ticket : Ticket)
  | takeCollected (ticket : Ticket)

/-- One incident: what it met, what a call that it ends comes to, and what it left. -/
structure Step where
  before : Connection
  incident : Incident
  result : Option CallResult
  after : Connection

namespace Connection

/-- What an incident makes of a connection, and what a call that it ends comes to. -/
def undergo (c : Connection) : Incident → Connection × Option CallResult
  | .ensureReady ticket => (c.ensureReady ticket, none)
  | .shutdown ticket => (c.shutdown ticket, none)
  | .syncDocument ticket uri text => c.syncDocument ticket uri text
  | .cancelSync ticket =>
    match c.stage? ticket with
    | some (.syncing _) => (c.cancelSync ticket, none)
    | _ => (c, none)
  | .poll host ticket => (c.poll host ticket).getD (c, none)
  | .exited code => (c.exited code, none)
  | .outputEnded => (c.outputEnded, none)
  | .resumeReader => (c.resumeReader, none)
  | .read bytes => (c.read bytes, none)
  | .readFailed failure => (c.readFailed failure, none)
  | .takeItem => (c.takeItem.2, none)
  | .dropWriter => (c.dropWriter, none)
  | .releaseServer => (c.releaseServer, none)
  | .advance milliseconds => (c.advanceTo (c.clock + milliseconds), none)
  | .watch ticket uri => (c.watch ticket uri, none)
  | .unwatch ticket => (c.unwatch ticket, none)
  | .collect ticket => (c.collect ticket, none)
  | .takeCollected ticket => (((c.takeCollected ticket).map Prod.snd).getD c, none)

def step (c : Connection) (incident : Incident) : Step :=
  ⟨c, incident, (c.undergo incident).2, (c.undergo incident).1⟩

end Connection

/-- The steps of a connection from its beginning, first step first, and what they left. -/
inductive Course (settings : ServerSettings) (clock : Nat) : List Step → Connection → Prop
  | start : Course settings clock [] (.fresh settings clock)
  | step {steps : List Step} {c : Connection} (incident : Incident) (course : Course settings clock steps c) :
      Course settings clock (steps ++ [c.step incident]) (c.step incident).after

/-- Let one incident happen after another: the steps, and what they leave. -/
def Connection.course (c : Connection) : List Incident → List Step × Connection
  | [] => ([], c)
  | incident :: rest =>
    let (steps, last) := (c.step incident).after.course rest
    (c.step incident :: steps, last)

variable {settings : ServerSettings} {clock : Nat} {steps : List Step} {c : Connection}

theorem Course.append (course : Course settings clock steps c) (incidents : List Incident) :
    Course settings clock (steps ++ (c.course incidents).1) (c.course incidents).2 := by
  induction incidents generalizing steps c with
  | nil => exact (List.append_nil steps).symm ▸ course
  | cons incident incidents ih =>
    have rest := ih (course.step incident)
    rw [List.append_assoc] at rest
    exact rest

end BlockDiscovery.Session
