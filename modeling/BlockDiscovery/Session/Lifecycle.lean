import BlockDiscovery.Protocol.Failure
import BlockDiscovery.Session.Phase

/-!
# The life of a connection

The current phase and those who wait for the connection to be ready.  A step that
`Phase.allows` does not list is refused.  A waiter is told the outcome as soon as the
connection is ready or can no longer become so.
-/

namespace BlockDiscovery.Session

open BlockDiscovery.Protocol

/-- The number of a task, given by whoever started it. -/
abbrev Ticket := Nat

/-- What a phase means for someone who needs a ready connection. -/
def Phase.readiness : Phase → Except Failure Unit
  | .ready => .ok ()
  | .failed reason => .error (.connectionFailed reason)
  | .shuttingDown | .closed => .error .connectionClosed
  | p => .error (.connectionFailed ("connection is " ++ p.label))

/-- Whether nobody has to wait for readiness in this phase. -/
def Phase.isSettled (p : Phase) : Bool := p = .ready || p.isTerminal

/-- The current phase and the tasks that wait for readiness. -/
structure Lifecycle where
  phase : Phase
  waiting : List Ticket
  deriving Repr, DecidableEq, Inhabited

namespace Lifecycle

/-- The life of a connection that was not started. -/
def fresh : Lifecycle := ⟨.uninitialized, []⟩

/-- Move to a phase if that is allowed; the flag says whether the phase changed. -/
def move (l : Lifecycle) (next : Phase) : Bool × Lifecycle :=
  if l.phase.allows next then (true, { l with phase := next }) else (false, l)

/-- Fail from any live phase. -/
def fail (l : Lifecycle) (reason : String) : Bool × Lifecycle := l.move (.failed reason)

/-- Fail unless a shutdown is under way, which explains the event. -/
def failUnexpected (l : Lifecycle) (reason : String) : Bool × Lifecycle :=
  if l.phase = .shuttingDown then (false, l) else l.fail reason

def checkReady (l : Lifecycle) : Except Failure Unit := l.phase.readiness

def wait (l : Lifecycle) (ticket : Ticket) : Lifecycle :=
  { l with waiting := l.waiting ++ [ticket] }

/-- Tell every waiter the outcome if there is one. -/
def settle (l : Lifecycle) : List (Ticket × Except Failure Unit) × Lifecycle :=
  if l.phase.isSettled then
    (l.waiting.map fun t => (t, l.phase.readiness), { l with waiting := [] })
  else ([], l)

end Lifecycle

end BlockDiscovery.Session
