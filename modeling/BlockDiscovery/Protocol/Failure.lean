import BlockDiscovery.Framing.Decoder
import BlockDiscovery.Json.Printer
import BlockDiscovery.Uri.Path

/-!
# Failures

What can go wrong between the client and a language server, in the words of the
causes.  `Failure.isFatal` says which of them leave a connection unusable.
-/

namespace BlockDiscovery.Protocol

open BlockDiscovery BlockDiscovery.Framing

/-- Why an operation on a language server failed. -/
inductive Failure where
  /-- The server process could not be started. -/
  | spawn (command reason : String)
  /-- A request went unanswered for so many milliseconds. -/
  | timeout (method : String) (milliseconds : Nat)
  /-- The server answered a request with an error. -/
  | rpc (method : String) (code : Int) (message : String)
  /-- The server process ended; without a code it was ended by a signal. -/
  | processExited (code : Option Int)
  /-- The connection had failed before. -/
  | connectionFailed (reason : String)
  | connectionClosed
  | framing (error : FramingError)
  /-- A path that is not absolute has no URI. -/
  | invalidPath (path : Uri.Path)
  /-- Nobody takes messages for the server any more. -/
  | writerClosed
  /-- There is no room for a message that cannot wait. -/
  | writerBusy
  | io (reason : String)
  deriving Repr, DecidableEq

namespace Failure

/-- How a process ended. -/
def exitText : Option Int → List Char
  | some code => " with code ".toList ++ Json.integerText code
  | none => " (terminated by signal)".toList

/-- The message of a failure. -/
def characters : Failure → List Char
  | .spawn command reason =>
    "failed to spawn language server `".toList ++ command.toList ++ "`: ".toList ++ reason.toList
  | .timeout method milliseconds =>
    "request `".toList ++ method.toList ++ "` timed out after ".toList ++
      Text.decimal milliseconds ++ "ms".toList
  | .rpc method code message =>
    "request `".toList ++ method.toList ++ "` failed (".toList ++ Json.integerText code ++
      "): ".toList ++ message.toList
  | .processExited code => "language server exited unexpectedly".toList ++ exitText code
  | .connectionFailed reason => "language server connection failed: ".toList ++ reason.toList
  | .connectionClosed => "language server connection is closed".toList
  | .framing error => "malformed LSP stream: ".toList ++ error.message
  | .invalidPath path => "cannot convert path to file URI: ".toList ++ path.display
  | .writerClosed => "writer channel closed".toList
  | .writerBusy => "writer channel full".toList
  | .io reason => reason.toList

def message (f : Failure) : String := String.ofList f.characters

/-- Whether the failure leaves the connection unusable. -/
def isFatal : Failure → Bool
  | .spawn _ _ | .processExited _ | .connectionFailed _ | .connectionClosed | .framing _
  | .writerClosed => true
  | .timeout _ _ | .rpc _ _ _ | .invalidPath _ | .writerBusy | .io _ => false

end Failure

end BlockDiscovery.Protocol
