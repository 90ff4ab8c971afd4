import BlockDiscovery.Protocol.Diagnostics
import BlockDiscovery.Session.Lifecycle
import BlockDiscovery.Uri.Document

/-!
# Published diagnostics and who watches them

Servers publish diagnostics per document.  Whoever wants those of a document watches
its URI; all watches of one URI share a cell that holds the latest publication.  What
is published for a URI that nobody watches is dropped.

A collection waits for a publication its watch has not seen, and then until no newer
one comes for the settling time.  The latest publication is its result.
-/

namespace BlockDiscovery.Session

open BlockDiscovery.Json BlockDiscovery.Protocol

/-! ## State -/

/-- The latest publication for the watches that share it. -/
structure Cell where
  id : Nat
  batch : Option (List Diagnostic)
  /-- How many publications there were. -/
  version : Nat
  /-- Whether publications still reach the cell. -/
  attached : Bool
  deriving Repr, Inhabited

/-- The cell of a watched URI and the number of its watches. -/
structure Slot where
  uri : String
  cell : Nat
  watchers : Nat
  deriving Repr, DecidableEq, Inhabited

/-- One watch: its cell and the last version it has seen. -/
structure Watch where
  ticket : Ticket
  uri : String
  cell : Nat
  seen : Nat
  deriving Repr, DecidableEq, Inhabited

/-- How far a collection has come. -/
inductive Collecting where
  /-- Nothing was published yet; it gives up at the deadline. -/
  | first (deadline : Nat)
  /-- It ends at `quiet` unless something newer is published, and at `deadline` in any
  case. -/
  | settling (deadline quiet : Nat)
  deriving Repr, DecidableEq, Inhabited

/-- A task that collects the diagnostics of a watch. -/
structure Collection where
  ticket : Ticket
  watch : Ticket
  /-- When the time for a first publication is over. -/
  limit : Nat
  settle : Nat
  progress : Collecting
  deriving Repr, DecidableEq, Inhabited

/-- The watches of a connection. -/
structure Router where
  clock : Nat
  closed : Bool
  slots : List Slot
  cells : List Cell
  watches : List Watch
  collections : List Collection
  deriving Repr, Inhabited

structure Collected where
  ticket : Ticket
  diagnostics : List Diagnostic
  deriving Repr, DecidableEq

/-! ## Logging -/

inductive LogLevel where
  | warn
  | info
  | debug
  | trace
  deriving Repr, DecidableEq

/-- The log entry for a message that the server wants shown or logged. -/
def serverLog (params : Option Value) : LogLevel × String :=
  let params := params.getD .null
  let message := ((params.get? "message").bind Value.text?).getD ""
  let level :=
    match (params.get? "type").bind Value.unsigned? with
    | some 1 | some 2 => LogLevel.warn
    | some 3 => .info
    | _ => .debug
  (level, "language server: " ++ message)

/-- The log entry for a notification that has no other effect. -/
def logOf (method : String) (params : Option Value) : LogLevel × String :=
  if method = "window/logMessage" ∨ method = "window/showMessage" then serverLog params
  else (.trace, "Ignoring LSP notification")

namespace Router

def fresh : Router := ⟨0, false, [], [], [], []⟩

/-! ## Watching -/

def slot? (r : Router) (uri : String) : Option Slot := r.slots.find? fun s => s.uri = uri

def cell? (r : Router) (id : Nat) : Option Cell := r.cells.find? fun c => c.id = id

def watch? (r : Router) (ticket : Ticket) : Option Watch :=
  r.watches.find? fun w => w.ticket = ticket

/-- Watch a URI.  Only what is published from now on counts.  A closed router gives a
watch that nothing will reach. -/
def watch (r : Router) (ticket : Ticket) (uri : String) : Router :=
  let uri := Uri.canonical uri
  let fresh := r.cells.length
  if r.closed then
    { r with
      cells := r.cells ++ [⟨fresh, none, 0, false⟩]
      watches := r.watches ++ [⟨ticket, uri, fresh, 0⟩] }
  else
    match r.slot? uri with
    | some slot =>
      -- what was published before is nothing new for this watch
      let seen := ((r.cell? slot.cell).map Cell.version).getD 0
      { r with
        slots := r.slots.map fun s => if s.uri = uri then { s with watchers := s.watchers + 1 } else s
        watches := r.watches ++ [⟨ticket, uri, slot.cell, seen⟩] }
    | none =>
      { r with
        slots := r.slots ++ [⟨uri, fresh, 1⟩]
        cells := r.cells ++ [⟨fresh, none, 0, true⟩]
        watches := r.watches ++ [⟨ticket, uri, fresh, 0⟩] }

/-- Cut a cell off from publications. -/
def detach (r : Router) (id : Nat) : Router :=
  { r with cells := r.cells.map fun c => if c.id = id then { c with attached := false } else c }

/-- Release one watch of a URI; the last one takes the slot with it. -/
def release (r : Router) (uri : String) : Router :=
  match r.slot? uri with
  | none => r
  | some slot =>
    if slot.watchers ≤ 1 then
      { (r.detach slot.cell) with slots := r.slots.filter fun s => s.uri ≠ uri }
    else
      { r with
        slots := r.slots.map fun s => if s.uri = uri then { s with watchers := s.watchers - 1 } else s }

def unwatch (r : Router) (ticket : Ticket) : Router :=
  match r.watch? ticket with
  | none => r
  | some w =>
    let r := r.release w.uri
    { r with watches := r.watches.filter fun w => w.ticket ≠ ticket }

/-! ## Publishing -/

/-- Put a publication into the cell of its URI, if that is watched. -/
def publish (r : Router) (uri : String) (diagnostics : List Diagnostic) : Router :=
  match r.slot? (Uri.canonical uri) with
  | none => r
  | some slot =>
    { r with
      cells := r.cells.map fun c =>
        if c.id = slot.cell then { c with batch := some diagnostics, version := c.version + 1 }
        else c }

/-- The method by which servers publish diagnostics. -/
def publishMethod : String := "textDocument/publishDiagnostics"

/-- Take in one notification; malformed publications are ignored. -/
def route (r : Router) (method : String) (params : Option Value) : Router :=
  if method = publishMethod then
    match decodeValue Publication.decode (params.getD .null) with
    | .ok p => r.publish p.uri p.diagnostics
    | .error _ => r
  else r

/-- Let nothing be published any more and refuse new watches. -/
def close (r : Router) : Router :=
  { r with
    closed := true
    slots := []
    cells := r.cells.map fun c => { c with attached := false } }

/-! ## Collecting -/

/-- What a watch finds in its cell. -/
inductive News where
  /-- A publication it has not seen. -/
  | unseen
  | nothing
  /-- Nothing, and nothing will come. -/
  | exhausted
  deriving Repr, DecidableEq

def news (r : Router) (ticket : Ticket) : News :=
  match r.watch? ticket with
  | none => .exhausted
  | some w =>
    match r.cell? w.cell with
    | none => .exhausted
    | some c =>
      if c.version ≠ w.seen then .unseen else if c.attached then .nothing else .exhausted

/-- The latest publication for the watch of a ticket. -/
def latest (r : Router) (ticket : Ticket) : List Diagnostic :=
  (((r.watch? ticket).bind fun w => r.cell? w.cell).bind Cell.batch).getD []

def markSeen (r : Router) (ticket : Ticket) : Router :=
  { r with
    watches := r.watches.map fun w =>
      if w.ticket = ticket then { w with seen := ((r.cell? w.cell).map Cell.version).getD w.seen }
      else w }

/-- What a collection does next: it goes on, or it ends with diagnostics. -/
inductive Next where
  | goesOn (progress : Collecting)
  | ends (diagnostics : List Diagnostic)
  deriving Repr, DecidableEq

/-- Enter the settling time after a publication; `isLast` says that no other one can
come. -/
def enterSettling (now settle deadline : Nat) (isLast : Bool) (latest : List Diagnostic) : Next :=
  let quiet := min settle (deadline - now)
  if quiet = 0 ∨ isLast then .ends latest else .goesOn (.settling deadline (now + quiet))

/-- What a collection does next at the current time. -/
def next (r : Router) (c : Collection) : Next :=
  -- nothing can come to a cell that is cut off
  let isLast := !(((r.watch? c.watch).bind fun w => r.cell? w.cell).any Cell.attached)
  match c.progress, r.news c.watch with
  | .first _, .unseen =>
    -- who settles has the whole settling time, also when the first publication comes late
    enterSettling r.clock c.settle (max c.limit (r.clock + c.settle)) isLast (r.latest c.watch)
  | .first _, .exhausted => .ends []
  | .first deadline, .nothing => if deadline ≤ r.clock then .ends [] else .goesOn c.progress
  | .settling deadline _, .unseen =>
    enterSettling r.clock c.settle deadline isLast (r.latest c.watch)
  | .settling _ _, .exhausted => .ends (r.latest c.watch)
  | .settling _ quiet, .nothing =>
    if quiet ≤ r.clock then .ends (r.latest c.watch) else .goesOn c.progress

/-- Let one collection go on. -/
def advanceOne (r : Router) (c : Collection) : Router × List Collected :=
  match r.next c with
  | .goesOn progress =>
    ({ r.markSeen c.watch with
        collections := r.collections.map fun d => if d.ticket = c.ticket then { d with progress } else d },
      [])
  | .ends diagnostics =>
    ({ r.markSeen c.watch with
        collections := r.collections.filter fun d => d.ticket ≠ c.ticket },
      [⟨c.ticket, diagnostics⟩])

/-- Let collections go on, each in its turn. -/
def advanceAll (r : Router) : List Collection → Router × List Collected
  | [] => (r, [])
  | c :: rest =>
    let (r, first) := r.advanceOne c
    let (r, more) := advanceAll r rest
    (r, first ++ more)

/-- Let every collection go on. -/
def run (r : Router) : Router × List Collected := r.advanceAll r.collections

def collect (r : Router) (ticket watch : Ticket) (timeout settle : Nat) : Router :=
  { r with
    collections := r.collections ++
      [⟨ticket, watch, r.clock + timeout, settle, .first (r.clock + timeout)⟩] }

def advanceTo (r : Router) (time : Nat) : Router × List Collected :=
  run { r with clock := time }

/-- The times at which collections go on by themselves. -/
def deadlines (r : Router) : List Nat :=
  r.collections.map fun c =>
    match c.progress with
    | .first deadline => deadline
    | .settling _ quiet => quiet

end Router

end BlockDiscovery.Session
