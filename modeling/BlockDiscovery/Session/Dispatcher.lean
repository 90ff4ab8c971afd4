import BlockDiscovery.Protocol.Message
import BlockDiscovery.Session.Channel

/-!
# Requests and their answers

The dispatcher numbers requests, keeps those that wait for an answer in a table, and
hands every outcome to the task that sent the request.  An entry leaves the table by
whichever comes first: its response, its timeout, the failure of the connection, or the
end of its task.  The time of a request runs from the moment its frame is in the
channel.
-/

namespace BlockDiscovery.Session

open BlockDiscovery.Json BlockDiscovery.Protocol

/-- What a task is told when it succeeds. -/
inductive Reply where
  /-- The result of a request. -/
  | value (result : Value)
  /-- The frame is in the channel. -/
  | queued
  deriving Repr, BEq, Inhabited

abbrev Outcome := Except Failure Reply

structure Completion where
  ticket : Ticket
  outcome : Outcome

/-- How many requests came to which end, and how many responses came too late. -/
structure Stats where
  resolved : Nat
  timedOut : Nat
  late : Nat
  failed : Nat
  deriving Repr, DecidableEq, Inhabited

/-- A request that waits for its answer. -/
structure Pending where
  id : Nat
  method : String
  ticket : Ticket
  deriving Repr, DecidableEq, Inhabited

/-- How far a request has come. -/
inductive Progress where
  /-- Its frame waits for room; an answer that came before is kept. -/
  | waiting (answer : Option Outcome)
  /-- Its frame is in the channel; it expires at the deadline. -/
  | sent (deadline : Nat)
  deriving Inhabited

/-- A task that sends a request and waits for the answer. -/
structure Send where
  ticket : Ticket
  id : Nat
  method : String
  timeout : Nat
  progress : Progress
  deriving Inhabited

/-- What became of a response. -/
inductive Resolution where
  | delivered
  /-- A request with this number is no longer pending. -/
  | late
  /-- No request has this number yet. -/
  | unknown
  deriving Repr, DecidableEq

/-- The requests of a connection. -/
structure Dispatcher where
  clock : Nat
  nextId : Nat
  pending : List Pending
  /-- Why new requests are refused, once the connection has failed. -/
  refusal : Option String
  stats : Stats
  channel : Channel
  sends : List Send
  deriving Inhabited

namespace Dispatcher

def fresh (capacity : Nat) : Dispatcher where
  clock := 0
  nextId := 1
  pending := []
  refusal := none
  stats := ⟨0, 0, 0, 0⟩
  channel := .fresh capacity
  sends := []

/-! ## Ends of tasks -/

def removePending (d : Dispatcher) (id : Nat) : Dispatcher :=
  { d with pending := d.pending.filter fun p => p.id ≠ id }

def removeSend (d : Dispatcher) (ticket : Ticket) : Dispatcher :=
  { d with sends := d.sends.filter fun s => s.ticket ≠ ticket }

/-- The task of a ticket that sends a request. -/
def send? (d : Dispatcher) (ticket : Ticket) : Option Send :=
  d.sends.find? fun s => s.ticket = ticket

def setProgress (d : Dispatcher) (ticket : Ticket) (progress : Progress) : Dispatcher :=
  { d with sends := d.sends.map fun s => if s.ticket = ticket then { s with progress } else s }

def expire (d : Dispatcher) (s : Send) : Dispatcher × Completion :=
  let d := (d.removePending s.id).removeSend s.ticket
  ({ d with stats := { d.stats with timedOut := d.stats.timedOut + 1 } },
    ⟨s.ticket, .error (.timeout s.method s.timeout)⟩)

/-- The frame of a task has entered the channel. -/
def arrive (d : Dispatcher) (ticket : Ticket) : Dispatcher × List Completion :=
  match d.send? ticket with
  -- no request stands behind it: its sender waited for room only
  | none => (d, [⟨ticket, .ok .queued⟩])
  | some s =>
    match s.progress with
    -- it was rejected in line; its frame goes out all the same
    | .waiting (some answer) => (d.removeSend ticket, [⟨ticket, answer⟩])
    | .waiting none =>
      if s.timeout = 0 then
        let (d, completion) := d.expire s
        (d, [completion])
      else (d.setProgress ticket (.sent (d.clock + s.timeout)), [])
    | .sent _ => (d, [])

/-- Hand an answer to a task: a task whose frame still waits for room learns of it
when the frame has entered the channel. -/
def deliver (d : Dispatcher) (ticket : Ticket) (answer : Outcome) : Dispatcher × List Completion :=
  match d.send? ticket with
  | none => (d, [])
  | some s =>
    match s.progress with
    | .sent _ => (d.removeSend ticket, [⟨ticket, answer⟩])
    | .waiting _ => (d.setProgress ticket (.waiting (some answer)), [])

/-! ## Sending -/

/-- Offer an item for a task that waits for no answer. -/
def enqueue (d : Dispatcher) (ticket : Ticket) (item : Item) : Dispatcher × List Completion :=
  match d.channel.push ticket item with
  | (.entered, channel) => ({ d with channel }, [⟨ticket, .ok .queued⟩])
  | (.waits, channel) => ({ d with channel }, [])
  | (.refused, _) =>
    match item with
    -- the input is closed already, which is all that was asked for
    | .close => (d, [⟨ticket, .ok .queued⟩])
    | .message _ => (d, [⟨ticket, .error .writerClosed⟩])

/-- Give up a task; nobody learns of its outcome. -/
def cancel (d : Dispatcher) (ticket : Ticket) : Dispatcher :=
  let d := { d with
    channel := d.channel.withdraw ticket
    pending := d.pending.filter fun p => p.ticket ≠ ticket }
  d.removeSend ticket

/-- Give a request the next number, and put it into the table and among the tasks. -/
def enroll (d : Dispatcher) (ticket : Ticket) (method : String) (timeout : Nat) : Dispatcher :=
  { d with
    nextId := d.nextId + 1
    pending := d.pending ++ [⟨d.nextId, method, ticket⟩]
    sends := d.sends ++ [⟨ticket, d.nextId, method, timeout, .waiting none⟩] }

/-- Send a request.  Every request gets a number of its own, also one that is
refused.  Its entry is in the table before its frame is offered to the channel, and is
given up when the channel takes no frames. -/
def send (d : Dispatcher) (ticket : Ticket) (method : String) (params : Option Value)
    (timeout : Nat) : Dispatcher × List Completion :=
  match d.refusal with
  | some reason => ({ d with nextId := d.nextId + 1 }, [⟨ticket, .error (.connectionFailed reason)⟩])
  | none =>
    let enrolled := d.enroll ticket method timeout
    match d.channel.push ticket (.message (request d.nextId method params)) with
    | (.refused, _) => (enrolled.cancel ticket, [⟨ticket, .error .writerClosed⟩])
    | (.waits, channel) => ({ enrolled with channel }, [])
    | (.entered, channel) => { enrolled with channel }.arrive ticket

def notify (d : Dispatcher) (ticket : Ticket) (method : String) (params : Option Value) :
    Dispatcher × List Completion :=
  d.enqueue ticket (.message (notification method params))

/-- Offer a frame that cannot wait for room. -/
def tryEnqueue (d : Dispatcher) (frame : Value) : Except Failure Unit × Dispatcher :=
  match d.channel.tryPush (.message frame) with
  | (.entered, channel) => (.ok (), { d with channel })
  | (.waits, _) => (.error .writerBusy, d)
  | (.refused, _) => (.error .writerClosed, d)

/-! ## Answers -/

/-- The outcome that a response means for a request of the given method. -/
def outcomeOf (method : String) (body : Value) : Outcome :=
  match responseError? body with
  | some (code, message) => .error (.rpc method code message)
  | none => .ok (.value (body.getD "result"))

/-- Hand a response to the request with its number. -/
def resolve (d : Dispatcher) (id : Nat) (body : Value) :
    Resolution × Dispatcher × List Completion :=
  match d.pending.find? fun p => p.id = id with
  | none =>
    -- numbers start at one, but zero counts as given too
    if id < d.nextId then
      (.late, { d with stats := { d.stats with late := d.stats.late + 1 } }, [])
    else (.unknown, d, [])
  | some p =>
    let d := d.removePending id
    let d := { d with stats := { d.stats with resolved := d.stats.resolved + 1 } }
    (.delivered, d.deliver p.ticket (outcomeOf p.method body))

/-- Hand the same failure to tasks. -/
def deliverAll (d : Dispatcher) (failure : Failure) :
    List Pending → Dispatcher × List Completion
  | [] => (d, [])
  | p :: rest =>
    let (d, first) := d.deliver p.ticket (.error failure)
    let (d, more) := deliverAll d failure rest
    (d, first ++ more)

/-- Reject every pending request and refuse new ones, for the reason of the first
time.  The number of rejected requests is told. -/
def failAll (d : Dispatcher) (reason : String) (failure : Failure) :
    Nat × Dispatcher × List Completion :=
  let rejected := d.pending
  let d := { d with
    refusal := some (d.refusal.getD reason)
    pending := []
    stats := { d.stats with failed := d.stats.failed + rejected.length } }
  (rejected.length, d.deliverAll failure rejected)

/-! ## The writer's side -/

def takeItem (d : Dispatcher) : Option Item × Dispatcher × List Completion :=
  let (item, entered, channel) := d.channel.take
  let d := { d with channel }
  match entered with
  | none => (item, d, [])
  | some ticket => (item, d.arrive ticket)

/-- The end of a task that waited in line when the writer went away. -/
def strand (d : Dispatcher) : List (Ticket × Item) → Dispatcher × List Completion
  | [] => (d, [])
  | (ticket, item) :: rest =>
    let outcome : Outcome :=
      match item with
      | .close => .ok .queued
      | .message _ => .error .writerClosed
    let (d, more) := strand (d.cancel ticket) rest
    (d, ⟨ticket, outcome⟩ :: more)

def dropWriter (d : Dispatcher) : Dispatcher × List Completion :=
  let line := d.channel.waiting
  strand { d with channel := d.channel.drop } line

/-! ## Time -/

/-- Let requests expire whose deadline has come. -/
def expireDue (d : Dispatcher) : List Send → Dispatcher × List Completion
  | [] => (d, [])
  | s :: rest =>
    match s.progress with
    | .sent deadline =>
      if deadline ≤ d.clock then
        let (d, first) := d.expire s
        let (d, more) := expireDue d rest
        (d, first :: more)
      else expireDue d rest
    -- its time has not begun
    | .waiting _ => expireDue d rest

def advanceTo (d : Dispatcher) (time : Nat) : Dispatcher × List Completion :=
  expireDue { d with clock := time } d.sends

/-- The first deadline of a sent request. -/
def deadlines (d : Dispatcher) : List Nat :=
  d.sends.filterMap fun s =>
    match s.progress with
    | .sent deadline => some deadline
    | .waiting _ => none

end Dispatcher

end BlockDiscovery.Session
