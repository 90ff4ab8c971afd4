/-!
# Phases of a connection

A connection goes from its start over the handshake to `ready`, from there into the
shutdown, and ends `closed` or `failed`; `allows` lists the steps.  Only a connection
that was never ready may be closed without a shutdown.
-/

namespace BlockDiscovery.Session

/-- Where a connection is in its life. -/
inductive Phase where
  | uninitialized
  | starting
  | initializing
  | ready
  | shuttingDown
  | closed
  | failed (reason : String)
  deriving Repr, DecidableEq, Inhabited

namespace Phase

def label : Phase → String
  | .uninitialized => "uninitialized"
  | .starting => "starting"
  | .initializing => "initializing"
  | .ready => "ready"
  | .shuttingDown => "shutting-down"
  | .closed => "closed"
  | .failed _ => "failed"

/-- Whether no phase follows. -/
def isTerminal : Phase → Bool
  | .closed | .failed _ => true
  | _ => false

/-- Whether the connection was started and has not ended. -/
def isLive : Phase → Bool
  | .starting | .initializing | .ready | .shuttingDown => true
  | _ => false

/-- Whether one phase may follow another. -/
def allows : Phase → Phase → Bool
  | .uninitialized, .starting => true
  | .starting, .initializing => true
  | .initializing, .ready => true
  | .ready, .shuttingDown => true
  | .shuttingDown, .closed => true
  | .uninitialized, .closed => true
  | .starting, .closed => true
  | .initializing, .closed => true
  | p, .failed _ => p.isLive
  | _, _ => false

end Phase

end BlockDiscovery.Session
