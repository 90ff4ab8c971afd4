import BlockDiscovery.Json.Value
import BlockDiscovery.Session.Lifecycle

/-!
# The writer channel

The queue between those who send messages and the task that writes them to the server.
It holds a limited number of items.  Who finds it full waits in line, and an item that
is taken makes room for the first in line at once, so that nobody is overtaken.
-/

namespace BlockDiscovery.Session

open BlockDiscovery.Json

/-- What the writer is told. -/
inductive Item where
  | message (frame : Value)
  /-- Close the input of the server. -/
  | close
  deriving Repr, BEq, Inhabited

/-- The queue, first item first, and the line before it. -/
structure Channel where
  capacity : Nat
  items : List Item
  waiting : List (Ticket × Item)
  /-- Whether the writer still takes items. -/
  isOpen : Bool
  deriving Repr, BEq, Inhabited

/-- What became of an item. -/
inductive Push where
  | entered
  | waits
  | refused
  deriving Repr, DecidableEq

namespace Channel

def fresh (capacity : Nat) : Channel := ⟨capacity, [], [], true⟩

def hasRoom (c : Channel) : Bool := c.items.length < c.capacity

/-- Offer an item: it enters, or its task waits in line. -/
def push (c : Channel) (ticket : Ticket) (item : Item) : Push × Channel :=
  if !c.isOpen then (.refused, c)
  else if c.hasRoom then (.entered, { c with items := c.items ++ [item] })
  else (.waits, { c with waiting := c.waiting ++ [(ticket, item)] })

/-- Offer an item that cannot wait. -/
def tryPush (c : Channel) (item : Item) : Push × Channel :=
  if !c.isOpen then (.refused, c)
  else if c.hasRoom then (.entered, { c with items := c.items ++ [item] })
  else (.waits, c)

/-- Take the first item; the task that entered the freed room is told. -/
def take (c : Channel) : Option Item × Option Ticket × Channel :=
  match c.items, c.waiting with
  | [], _ => (none, none, c)
  | item :: rest, [] => (some item, none, { c with items := rest })
  | item :: rest, (ticket, entering) :: line =>
    (some item, some ticket, { c with items := rest ++ [entering], waiting := line })

/-- Leave the line. -/
def withdraw (c : Channel) (ticket : Ticket) : Channel :=
  { c with waiting := c.waiting.filter fun w => w.1 ≠ ticket }

/-- Stop taking items; what was queued is lost. -/
def drop (c : Channel) : Channel := { c with items := [], waiting := [], isOpen := false }

end Channel

end BlockDiscovery.Session
