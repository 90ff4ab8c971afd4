/-!
# What processes do

A process reacts to each event: bytes it writes to its output, and its end, if it ends.
-/

namespace BlockDiscovery.Execution

/-- How a process ended: its exit code, which is absent after a signal. -/
abbrev Ending := Option Int

/-- The exit code that a process has when it exits with a number. -/
def exitCode (n : Int) : Ending := some (n % 256)

/-- What a process does on an event. -/
structure Response where
  output : ByteArray
  ending : Option Ending

namespace Response

def idle : Response := ⟨ByteArray.empty, none⟩

def write (bytes : ByteArray) : Response := ⟨bytes, none⟩

/-- A response after bytes that were written before. -/
def after (r : Response) (bytes : ByteArray) : Response := { r with output := bytes ++ r.output }

end Response

end BlockDiscovery.Execution
