import BlockDiscovery.Session.Dispatcher

/-! # Runs of a dispatcher

A run is what happens to a fresh dispatcher when operations are applied to it one after
another.  It is kept as a list of turns, each with what it found, what it answered,
which tasks ended in it, and what it left.
-/

namespace BlockDiscovery.Session

open BlockDiscovery.Json BlockDiscovery.Protocol

/-- What is done with a dispatcher.  The first four operations start a task. -/
inductive Operation where
  | send (method : String) (params : Option Value) (timeout : Nat)
  | notify (method : String) (params : Option Value)
  | sendRaw (frame : Value)
  | closeWriter
  | trySendRaw (frame : Value)
  | cancel (ticket : Ticket)
  | resolve (id : Nat) (body : Value)
  | failAll (reason : String) (failure : Failure)
  | take
  | dropWriter
  /-- Time passes. -/
  | advance (milliseconds : Nat)

/-- What the caller of an operation is told at once. -/
inductive Answer where
  | nothing
  | task (ticket : Ticket)
  | tried (result : Except Failure Unit)
  | resolution (resolution : Resolution)
  | rejected (count : Nat)
  | item (item : Option Item)

/-- A dispatcher and the number of tasks that were started with it, which is the ticket
of the next one. -/
structure Desk where
  dispatcher : Dispatcher
  tasks : Nat

/-- One operation: what it found, what came of it and what it left. -/
structure Turn where
  before : Desk
  operation : Operation
  answer : Answer
  completions : List Completion
  after : Desk

namespace Desk

/-- A dispatcher that was asked for nothing yet. -/
def fresh (capacity : Nat) : Desk := ⟨.fresh capacity, 0⟩

/-- A turn that starts a task. -/
def start (k : Desk) (operation : Operation) (out : Dispatcher × List Completion) : Turn :=
  ⟨k, operation, .task k.tasks, out.2, ⟨out.1, k.tasks + 1⟩⟩

/-- A turn that starts no task. -/
def reply (k : Desk) (operation : Operation) (answer : Answer) (out : Dispatcher × List Completion) :
    Turn :=
  ⟨k, operation, answer, out.2, ⟨out.1, k.tasks⟩⟩

/-- Apply an operation. -/
def turn (k : Desk) (operation : Operation) : Turn :=
  let d := k.dispatcher
  match operation with
  | .send method params timeout => k.start operation (d.send k.tasks method params timeout)
  | .notify method params => k.start operation (d.notify k.tasks method params)
  | .sendRaw frame => k.start operation (d.enqueue k.tasks (.message frame))
  | .closeWriter => k.start operation (d.enqueue k.tasks .close)
  | .trySendRaw frame =>
    k.reply operation (.tried (d.tryEnqueue frame).1) ((d.tryEnqueue frame).2, [])
  | .cancel ticket => k.reply operation .nothing (d.cancel ticket, [])
  | .resolve id body =>
    k.reply operation (.resolution (d.resolve id body).1) (d.resolve id body).2
  | .failAll reason failure =>
    k.reply operation (.rejected (d.failAll reason failure).1) (d.failAll reason failure).2
  | .take => k.reply operation (.item d.takeItem.1) d.takeItem.2
  | .dropWriter => k.reply operation .nothing d.dropWriter
  | .advance milliseconds => k.reply operation .nothing (d.advanceTo (d.clock + milliseconds))

end Desk

/-- The turns of a run from a fresh dispatcher, first turn first, and what they left. -/
inductive Run (capacity : Nat) : List Turn → Desk → Prop
  | start : Run capacity [] (.fresh capacity)
  | turn {turns : List Turn} {k : Desk} (operation : Operation) (run : Run capacity turns k) :
      Run capacity (turns ++ [k.turn operation]) (k.turn operation).after

/-- Apply operations one after another: the turns, and what they leave. -/
def Desk.run (k : Desk) : List Operation → List Turn × Desk
  | [] => ([], k)
  | operation :: rest =>
    let (turns, last) := (k.turn operation).after.run rest
    (k.turn operation :: turns, last)

theorem Run.append {capacity : Nat} {turns : List Turn} {k : Desk} (run : Run capacity turns k)
    (operations : List Operation) :
    Run capacity (turns ++ (k.run operations).1) (k.run operations).2 := by
  induction operations generalizing turns k with
  | nil => exact (List.append_nil turns).symm ▸ run
  | cons operation operations ih =>
    have rest := ih (run.turn operation)
    rw [List.append_assoc] at rest
    exact rest

end BlockDiscovery.Session
