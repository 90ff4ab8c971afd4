import BlockDiscovery.Session.Router

/-! # The board of watches

A board is a router with all that is done to it from outside: watching and giving up,
notifications, collections, the end of the connection, and time.  The collection of a watch
has the ticket of the watch.  While it is under way the watch is busy, and can neither be
given up nor collected once more.
-/

namespace BlockDiscovery.Session

open BlockDiscovery.Json BlockDiscovery.Protocol

/-- What is done with the watches of a connection. -/
inductive Deed where
  | watch (uri : String)
  | unwatch (ticket : Ticket)
  | route (method : String) (params : Option Value)
  | collect (ticket : Ticket) (timeout settle : Nat)
  | close
  /-- Time passes. -/
  | advance (milliseconds : Nat)

/-- Whether collections are looked after when a deed is done. -/
def Deed.wakes : Deed → Bool
  | .watch _ | .unwatch _ => false
  | _ => true

/-- A router and the number of watches so far, which is the ticket of the next one. -/
structure Board where
  router : Router
  watches : Nat

namespace Router

/-- The collection of a ticket. -/
def collection? (r : Router) (ticket : Ticket) : Option Collection :=
  r.collections.find? fun c => c.ticket = ticket

/-- Whether a watch is there and not busy. -/
def isIdle (r : Router) (ticket : Ticket) : Bool :=
  (r.watch? ticket).isSome && (r.collection? ticket).isNone

/-- What a deed changes before collections are looked after. -/
def change (r : Router) (ticket : Ticket) : Deed → Router
  | .watch uri => r.watch ticket uri
  | .unwatch ticket => if r.isIdle ticket then r.unwatch ticket else r
  | .route method params => r.route method params
  | .collect ticket timeout settle =>
    if r.isIdle ticket then r.collect ticket ticket timeout settle else r
  | .close => r.close
  | .advance milliseconds => { r with clock := r.clock + milliseconds }

end Router

namespace Board

def fresh : Board := ⟨.fresh, 0⟩

/-- The number of watches after a deed. -/
def count (b : Board) : Deed → Nat
  | .watch _ => b.watches + 1
  | _ => b.watches

/-- What a deed changes before collections are looked after. -/
def change (b : Board) (deed : Deed) : Board := ⟨b.router.change b.watches deed, b.count deed⟩

/-- Do one deed: what becomes of the board, and which collections end. -/
def step (b : Board) (deed : Deed) : Board × List Collected :=
  if deed.wakes then ({ b.change deed with router := (b.change deed).router.run.1 }, (b.change deed).router.run.2)
  else (b.change deed, [])

/-- Do one deed after another: which collections end in each, and what becomes of the
board. -/
def run (b : Board) : List Deed → List (List Collected) × Board
  | [] => ([], b)
  | deed :: rest =>
    let (later, last) := (b.step deed).1.run rest
    ((b.step deed).2 :: later, last)

end Board

end BlockDiscovery.Session
