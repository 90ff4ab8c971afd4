import BlockDiscovery.Proofs.Session.Round

/-! # Private mailboxes

A recipient is one watch with a mailbox of its own, which nobody else can see.  What is
published for its URI is put into the box from the time the watch was made until the end of the
connection.  A router, whose watches share cells, does the same for every one of them.
-/

namespace BlockDiscovery.Session

open BlockDiscovery.Json BlockDiscovery.Protocol Router

/-- What belongs to one watch alone. -/
structure Mailbox where
  uri : String
  batch : Option (List Diagnostic)
  isUnseen : Bool
  collection : Option Collection

/-- One watch, as long as it is there, and what it knows of the world. -/
structure Recipient where
  clock : Nat
  isClosed : Bool
  /-- How many watches were made. -/
  watches : Nat
  box : Option Mailbox

/-- What a notification publishes for a URI; nothing when the connection has ended. -/
def letter? (uri : String) (isClosed : Bool) (method : String) (params : Option Value) :
    Option (List Diagnostic) :=
  if isClosed then none
  else (published? method params).bind fun p => if p.1 = uri then some p.2 else none

namespace Mailbox

/-- Take in what was published, if anything was. -/
def receive (m : Mailbox) : Option (List Diagnostic) → Mailbox
  | some batch => { m with batch := some batch, isUnseen := true }
  | none => m

/-- Start to collect. -/
def start (m : Mailbox) (ticket : Ticket) (clock timeout settle : Nat) : Mailbox :=
  match m.collection with
  | none =>
    { m with collection := some ⟨ticket, ticket, clock + timeout, settle, .first (clock + timeout)⟩ }
  | some _ => m

/-- What is found in the box; nothing will come when the connection has ended. -/
def news (m : Mailbox) (isClosed : Bool) : News :=
  if m.isUnseen then .unseen else if isClosed then .exhausted else .nothing

/-- Look after the collection, and tell what it has found when it ends. -/
def look (m : Mailbox) (clock : Nat) (isClosed : Bool) : Mailbox × List (List Diagnostic) :=
  match m.collection with
  | none => (m, [])
  | some c =>
    match c.next clock (m.news isClosed) isClosed (m.batch.getD []) with
    | .goesOn progress => ({ m with isUnseen := false, collection := some { c with progress } }, [])
    | .ends diagnostics => ({ m with isUnseen := false, collection := none }, [diagnostics])

end Mailbox

namespace Recipient

def fresh : Recipient := ⟨0, false, 0, none⟩

/-- What a deed changes for the watch of a ticket. -/
def change (p : Recipient) (ticket : Ticket) : Deed → Recipient
  | .watch uri =>
    { p with
      watches := p.watches + 1
      box := if p.watches = ticket then some ⟨Uri.canonical uri, none, false, none⟩ else p.box }
  | .unwatch other =>
    { p with box := p.box.filter fun m => ¬ (other = ticket ∧ m.collection.isNone) }
  | .route method params =>
    { p with box := p.box.map fun m => m.receive (letter? m.uri p.isClosed method params) }
  | .collect other timeout settle =>
    { p with box := p.box.map fun m => if other = ticket then m.start ticket p.clock timeout settle else m }
  | .close => { p with isClosed := true }
  | .advance milliseconds => { p with clock := p.clock + milliseconds }

/-- Look into the box. -/
def look (p : Recipient) : Recipient × List (List Diagnostic) :=
  match p.box with
  | none => (p, [])
  | some m => ({ p with box := some (m.look p.clock p.isClosed).1 }, (m.look p.clock p.isClosed).2)

/-- Do one deed. -/
def step (p : Recipient) (ticket : Ticket) (deed : Deed) : Recipient × List (List Diagnostic) :=
  if deed.wakes then (p.change ticket deed).look else (p.change ticket deed, [])

/-- Do one deed after another: what the collections of the watch find in each, and what
becomes of the recipient. -/
def run (p : Recipient) (ticket : Ticket) : List Deed → List (List (List Diagnostic)) × Recipient
  | [] => ([], p)
  | deed :: rest =>
    let (later, last) := (p.step ticket deed).1.run ticket rest
    ((p.step ticket deed).2 :: later, last)

end Recipient

/-- What is published for a URI, and when, until the connection ends. -/
def heard (uri : String) (clock : Nat) (isClosed : Bool) : List Deed → List (Nat × List Diagnostic)
  | [] => []
  | .route method params :: rest =>
    match letter? uri isClosed method params with
    | some batch => (clock, batch) :: heard uri clock isClosed rest
    | none => heard uri clock isClosed rest
  | .close :: rest => heard uri clock true rest
  | .advance milliseconds :: rest => heard uri (clock + milliseconds) isClosed rest
  | _ :: rest => heard uri clock isClosed rest

theorem heard_closed (uri : String) (clock : Nat) (deeds : List Deed) : heard uri clock true deeds = [] := by
  induction deeds generalizing clock with
  | nil => rfl
  | cons deed rest ih =>
    cases deed with
    | advance milliseconds => exact ih _
    | _ => exact ih clock

/-- What the collections of a watch find. -/
def foundBy (ticket : Ticket) (done : List Collected) : List (List Diagnostic) :=
  (done.filter fun c => c.ticket = ticket).map Collected.diagnostics

/-- The publication of one message at the start of a document. -/
def Deed.publish (uri message : String) : Deed :=
  .route publishMethod (some (.object [
    ("diagnostics", .array [.object [
      ("message", .string message),
      ("range", .object [("start", .object [("character", .int 0), ("line", .int 0)])])]]),
    ("uri", .string uri)]))

end BlockDiscovery.Session
