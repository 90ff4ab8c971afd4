import BlockDiscovery.Execution.Machine

/-!
# Supervising one process

`supervise` starts a process, gives it all its input at once and waits for its end: left
to itself, killed at once, or killed after a grace period.  The end is reported once,
however often the process is told to die.
-/

namespace BlockDiscovery.Execution

open BlockDiscovery BlockDiscovery.Config
open BlockDiscovery.Protocol (Failure)

/-- How a process is brought to its end. -/
inductive Halt where
  /-- It is left to itself, and its output is read. -/
  | natural
  | kill
  | stop (grace : Nat)
  deriving Repr, DecidableEq, Inhabited

/-- What is known of a process that has ended. -/
structure Observation where
  ending : Ending
  /-- The ends that were reported, in order. -/
  reported : List Ending
  /-- What was read of the output. -/
  output : ByteArray

/-- How often a process wakes up, at most. -/
def wakeLimit : Nat := 10000

/-- Let time pass up to the end of a process, or to a deadline; `fuel` bounds how often it
wakes up. -/
def Child.sleepUntil (deadline : Option Nat) : Nat → Child → Child
  | 0, p => p
  | fuel + 1, p =>
    match p.alarm? with
    | none => p
    | some time =>
      if deadline.any (· < time) then p
      else sleepUntil deadline fuel (p.react time (.time time)).1

/-- What becomes of a process that is brought to its end. -/
def Child.haltBy (p : Child) : Halt → Child
  | .natural => p.sleepUntil none wakeLimit
  | .kill => p.kill
  | .stop grace => p.sleepUntil (some grace) wakeLimit

def supervise (m : Machine) (settings : ServerSettings) (input : ByteArray) (halt : Halt) :
    Except Failure Observation :=
  match m.spawn settings 0 with
  | .error reason => .error (.spawn settings.command reason)
  | .ok started =>
    let killed := match halt with
      | .kill => started.kill
      | _ => started
    let (fed, _) := killed.react 0 (.input input)
    let (closed, _) := fed.react 0 .inputEnd
    -- after the grace; a process that has ended stays as it is
    let final := (closed.haltBy halt).kill
    let ending := final.ending.getD none
    .ok ⟨ending, [ending], if halt = .natural then final.output else ByteArray.empty⟩

end BlockDiscovery.Execution
