import BlockDiscovery.Proofs.Session.Accounting
import BlockDiscovery.Proofs.Session.Life

/-! # What a turn means to one request

A turn of a dispatcher issues requests, lets frames into the channel, answers entries
and ends tasks.  Seen from one task, every turn is one of the events of `Send.on`
(`Turn.Meets`) or spares it (`Turn.Spares`).
-/

namespace BlockDiscovery.Session

open BlockDiscovery.Json BlockDiscovery.Protocol

/-- A request as it was issued. -/
structure Request where
  id : Nat
  method : String
  ticket : Ticket
  timeout : Nat
  deriving Repr, DecidableEq

namespace Request

/-- Its entry in the table. -/
def entry (r : Request) : Pending := ⟨r.id, r.method, r.ticket⟩

/-- Its task, which has come so far. -/
def task (r : Request) (progress : Progress) : Send := ⟨r.ticket, r.id, r.method, r.timeout, progress⟩

/-- What it reports when its time is over. -/
def lapse (r : Request) : Completion := ⟨r.ticket, .error (.timeout r.method r.timeout)⟩

end Request

/-- Whether a task ends because its time is over. -/
def Completion.isTimeout (c : Completion) : Bool :=
  match c.outcome with
  | .error (.timeout _ _) => true
  | _ => false

/-- Whether an operation starts a task. -/
def Operation.startsTask : Operation → Bool
  | .send .. | .notify .. | .sendRaw _ | .closeWriter => true
  | _ => false

/-- Whether an operation rejects all requests. -/
def Operation.rejects : Operation → Bool
  | .failAll .. => true
  | _ => false

/-- Whether an operation answers requests. -/
def Operation.answers : Operation → Bool
  | .resolve .. | .failAll .. => true
  | _ => false

namespace Turn

/-! ## What happens in a turn -/

/-- The request that is issued in a turn, also one that is refused. -/
def issued (t : Turn) : List Request :=
  match t.operation with
  | .send method _ timeout => [⟨t.before.dispatcher.nextId, method, t.before.tasks, timeout⟩]
  | _ => []

/-- The item for which a new task wants room in the channel. -/
def offered? (t : Turn) : Option Item :=
  match t.operation with
  | .send method params _ =>
    if t.before.dispatcher.refusal.isNone then
      some (.message (request t.before.dispatcher.nextId method params))
    else none
  | .notify method params => some (.message (notification method params))
  | .sendRaw frame => some (.message frame)
  | .closeWriter => some .close
  | _ => none

/-- The tasks whose items enter the channel: the new one, if it finds room, or the one
that takes the room of an item that leaves. -/
def entered (t : Turn) : List Ticket :=
  match t.operation with
  | .take => t.before.dispatcher.channel.take.2.1.toList
  | _ =>
    match t.offered? with
    | some item =>
      if (t.before.dispatcher.channel.push t.before.tasks item).1 = .entered then [t.before.tasks] else []
    | none => []

/-- The verdict by which a turn takes an entry out of the table. -/
def verdict? (t : Turn) (p : Pending) : Option Verdict :=
  if p ∈ t.before.dispatcher.pending ∧ p ∉ t.after.dispatcher.pending then
    match t.operation with
    | .resolve _ body => some (.response body)
    | .failAll _ cause => some (.failure cause)
    | _ => none
  else none

/-- What the task of a ticket reports in a turn. -/
def reports (t : Turn) (ticket : Ticket) : List Completion :=
  t.completions.filter fun c => c.ticket = ticket

/-- The timeouts of a turn: the reports that the time is over, of tasks that still had
an entry in the table and were not told a failure. -/
def expiries (t : Turn) : List Completion :=
  match t.operation with
  | .failAll _ _ => []
  | _ => t.completions.filter fun c =>
    c.isTimeout && (t.before.dispatcher.pending ++ t.inserted).any fun p => p.ticket = c.ticket

/-- Whether a turn cancels the task of a ticket. -/
def cancels (t : Turn) (ticket : Ticket) : Bool :=
  match t.operation with
  | .cancel u => u = ticket && ticket < t.before.tasks
  | _ => false

end Turn

/-! ## Entries and tasks -/

namespace Dispatcher

variable {d : Dispatcher} {tasks : Nat}

/-- The tickets of the tasks that wait for room, first in line first. -/
def line (d : Dispatcher) : List Ticket := d.channel.waiting.map Prod.fst

theorem Sound.find (h : Sound tasks d) {s : Send} (member : s ∈ d.sends) :
    d.send? s.ticket = some s := by
  rw [send?]
  cases found : d.sends.find? fun t => t.ticket = s.ticket with
  | none => simpa using List.find?_eq_none.mp found s member
  | some t =>
    have same : t.ticket = s.ticket := by simpa using List.find?_some found
    rw [h.matched.same_ticket (List.mem_of_find?_eq_some found) member same]

/-- An entry is in the table as long as its task is there and open. -/
theorem Sound.mem_pending (h : Sound tasks d) {p : Pending} :
    p ∈ d.pending ↔ ∃ s, d.send? p.ticket = some s ∧ s.isOpen = true ∧ s.entry = p := by
  constructor
  · intro member
    obtain ⟨s, task, waits, rfl⟩ := h.matched.task_of_entry member
    exact ⟨s, h.find task, waits, rfl⟩
  · rintro ⟨s, found, waits, rfl⟩
    rw [h.matched.table]
    exact List.mem_map_of_mem (List.mem_filter.mpr ⟨(send?_eq_some found).1, waits⟩)

theorem Sound.entry_mem (h : Sound tasks d) {s : Send} (found : d.send? s.ticket = some s) :
    s.entry ∈ d.pending ↔ s.isOpen = true := by
  refine h.mem_pending.trans ⟨?_, fun waits => ⟨s, found, waits, rfl⟩⟩
  rintro ⟨t, same, waits, _⟩
  obtain rfl := Option.some.inj (found.symm.trans same)
  exact waits

theorem Sound.given (h : Sound tasks d) {ticket : Ticket} {s : Send} (found : d.send? ticket = some s) :
    ticket < tasks := by
  obtain ⟨member, rfl⟩ := send?_eq_some found
  exact (h.matched.given s member).1

end Dispatcher

open Dispatcher

namespace Turn

variable {t : Turn} {s : Send} {u : Ticket}

/-! ## Turns that spare a task -/

/-- A turn leaves the task of a ticket alone, or finds and leaves none. -/
structure Spares (t : Turn) (u : Ticket) : Prop where
  view : view (t.after.dispatcher, t.completions) u = (t.before.dispatcher.send? u, [])
  entered : u ∉ t.entered
  line : u ∈ t.after.dispatcher.line → u ∈ t.before.dispatcher.line

theorem Spares.reports (h : t.Spares u) : t.reports u = [] := congrArg Prod.snd h.view

theorem Spares.task (h : t.Spares u) : t.after.dispatcher.send? u = t.before.dispatcher.send? u :=
  congrArg Prod.fst h.view

theorem cancels_iff : t.cancels u = true ↔ t.operation = .cancel u ∧ u < t.before.tasks := by
  rw [cancels]
  split
  · next ticket operation =>
    rw [operation, Bool.and_eq_true, decide_eq_true_eq, decide_eq_true_eq, Operation.cancel.injEq]
  · next other => exact ⟨nofun, fun same => absurd same.1 (other u)⟩

theorem expiries_eq_nil (silent : t.reports u = []) :
    t.expiries.filter (fun c => c.ticket = u) = [] := by
  rw [expiries]
  split
  · rfl
  · rw [List.filter_filter]
    refine List.filter_eq_nil_iff.mpr fun c member => ?_
    have other := List.filter_eq_nil_iff.mp silent c member
    simp only [decide_eq_true_eq] at other
    simp [other]

theorem verdict?_eq_none {p : Pending}
    (kept : p ∈ t.before.dispatcher.pending → p ∈ t.after.dispatcher.pending) : t.verdict? p = none :=
  if_neg fun removed => removed.2 (kept removed.1)

theorem Spares.verdict? (h : t.Spares u) {tasks later : Nat} (before : Sound tasks t.before.dispatcher)
    (after : Sound later t.after.dispatcher) {p : Pending} (own : p.ticket = u) :
    t.verdict? p = none := by
  subst own
  refine verdict?_eq_none fun member => ?_
  rw [after.mem_pending, h.task]
  exact before.mem_pending.mp member

/-! ## Turns that concern a task -/

/-- The timeouts that an event means for a task. -/
def lapses (s : Send) (clock : Nat) : Happening → List Completion
  | .time => (s.on clock .time).2
  | .admitted => if s.isOpen then (s.on clock .admitted).2 else []
  | _ => []

/-- The verdict of an event. -/
def verdictOf : Happening → Option Verdict
  | .answered verdict => some verdict
  | _ => none

/-- Whether an event can only happen to a task that has no room in the channel yet. -/
def needsRoom : Happening → Bool
  | .admitted | .stranded | .refused _ => true
  | _ => false

/-- Whether an event ends the wait for room, if there was one. -/
def leavesLine (e : Happening) : Bool :=
  match e with
  | .cancelled => true
  | _ => needsRoom e

/-- A turn means an event for a task, which was there before or is the new one. -/
structure Meets (t : Turn) (s : Send) (e : Happening) : Prop where
  view : view (t.after.dispatcher, t.completions) s.ticket = s.on t.after.dispatcher.clock e
  verdict : t.verdict? s.entry = verdictOf e
  entered : s.ticket ∈ t.entered ↔ e = .admitted
  cancels : t.cancels s.ticket = true ↔ e = .cancelled
  expiries : t.expiries.filter (fun c => c.ticket = s.ticket) = lapses s t.after.dispatcher.clock e
  /-- Only an open task is answered. -/
  isOpen : ∀ verdict, e = .answered verdict → s.isOpen = true
  /-- Who needed room is new or was in line. -/
  room : needsRoom e = true → s.ticket ∈ t.before.dispatcher.line ∨ s.ticket = t.before.tasks
  /-- Who is in line afterwards is new or was in line, and has no room yet. -/
  line : s.ticket ∈ t.after.dispatcher.line →
    (s.ticket ∈ t.before.dispatcher.line ∨ s.ticket = t.before.tasks) ∧ leavesLine e = false
  clock : e = .time ∨ t.after.dispatcher.clock = t.before.dispatcher.clock

theorem Spares.meets (h : t.Spares s.ticket) {tasks later : Nat} (before : Sound tasks t.before.dispatcher)
    (after : Sound later t.after.dispatcher) (found : t.before.dispatcher.send? s.ticket = some s)
    (kind : ∀ ticket, t.operation = .cancel ticket → ticket ≠ s.ticket)
    (clock : t.after.dispatcher.clock = t.before.dispatcher.clock) : t.Meets s .nothing where
  view := h.view.trans (by rw [found]; rfl)
  verdict := h.verdict? before after rfl
  entered := ⟨fun inside => absurd inside h.entered, nofun⟩
  cancels := ⟨fun cancels => absurd rfl (kind _ (cancels_iff.mp cancels).1), nofun⟩
  expiries := expiries_eq_nil h.reports
  isOpen := nofun
  room := nofun
  line inside := ⟨.inl (h.line inside), rfl⟩
  clock := .inr clock

end Turn

namespace Dispatcher

variable {d : Dispatcher} {tasks : Nat}

/-! ## Sending, case by case -/

section Send

variable {ticket : Ticket} {method : String} {params : Option Value} {timeout : Nat} {channel : Channel}

theorem send_of_refusal {reason : String} (refusal : d.refusal = some reason) :
    d.send ticket method params timeout =
      ({ d with nextId := d.nextId + 1 }, [⟨ticket, .error (.connectionFailed reason)⟩]) := by
  rw [send, refusal]

theorem send_of_closed (refusal : d.refusal = none)
    (pushed : d.channel.push ticket (.message (request d.nextId method params)) = (.refused, channel)) :
    d.send ticket method params timeout =
      ((d.enroll ticket method timeout).cancel ticket, [⟨ticket, .error .writerClosed⟩]) := by
  simp only [send, refusal, pushed]

theorem send_of_waits (refusal : d.refusal = none)
    (pushed : d.channel.push ticket (.message (request d.nextId method params)) = (.waits, channel)) :
    d.send ticket method params timeout = ({ d.enroll ticket method timeout with channel }, []) := by
  simp only [send, refusal, pushed]

theorem send_of_entered (refusal : d.refusal = none)
    (pushed : d.channel.push ticket (.message (request d.nextId method params)) = (.entered, channel)) :
    d.send ticket method params timeout = { d.enroll ticket method timeout with channel }.arrive ticket := by
  simp only [send, refusal, pushed]

end Send

/-! ## The clock -/

theorem strand_clock (d : Dispatcher) (line : List (Ticket × Item)) : (d.strand line).1.clock = d.clock := by
  induction line generalizing d with
  | nil => rfl
  | cons w line ih =>
    rw [strand_cons, ih]
    rfl

theorem resolve_clock (d : Dispatcher) (id : Nat) (body : Value) :
    (d.resolve id body).2.1.clock = d.clock := by
  rw [resolve]
  split
  · split <;> rfl
  · rw [deliver_frame]
    rfl

theorem failAll_clock (d : Dispatcher) (reason : String) (failure : Failure) :
    (d.failAll reason failure).2.1.clock = d.clock := by
  rw [failAll, deliverAll_frame]

theorem takeItem_clock (d : Dispatcher) : d.takeItem.2.1.clock = d.clock := by
  rw [takeItem]
  dsimp only
  split
  · rfl
  · rw [arrive_frame]

theorem enqueue_clock (d : Dispatcher) (ticket : Ticket) (item : Item) :
    (d.enqueue ticket item).1.clock = d.clock := by
  obtain ⟨channel, completions, frame, _⟩ := enqueue_frame d ticket item
  rw [frame]

theorem send_clock (d : Dispatcher) (ticket : Ticket) (method : String) (params : Option Value)
    (timeout : Nat) : (d.send ticket method params timeout).1.clock = d.clock := by
  rw [send]
  split
  · rfl
  dsimp only
  split
  · rfl
  · rfl
  · rw [arrive_frame]
    rfl

theorem tryEnqueue_frame (d : Dispatcher) (frame : Value) :
    ∃ channel, (d.tryEnqueue frame).2 = { d with channel } ∧ channel.waiting = d.channel.waiting := by
  have line := tryPush_waiting d.channel (.message frame)
  rw [tryEnqueue]
  split
  · next channel pushed =>
    rw [pushed] at line
    exact ⟨channel, rfl, line⟩
  · exact ⟨d.channel, rfl, rfl⟩
  · exact ⟨d.channel, rfl, rfl⟩

end Dispatcher

namespace Desk

variable {k : Desk} {u : Ticket}

/-- Only the passing of time moves the clock. -/
theorem turn_clock (k : Desk) (operation : Operation) :
    (∃ ms, operation = .advance ms) ∨
      (k.turn operation).after.dispatcher.clock = k.dispatcher.clock := by
  cases operation with
  | send method params timeout => exact .inr (send_clock _ _ _ _ _)
  | notify method params => exact .inr (enqueue_clock _ _ _)
  | sendRaw frame => exact .inr (enqueue_clock _ _ _)
  | closeWriter => exact .inr (enqueue_clock _ _ _)
  | trySendRaw frame =>
    obtain ⟨channel, same, _⟩ := tryEnqueue_frame k.dispatcher frame
    exact .inr (by simp only [turn, reply, same])
  | cancel ticket => exact .inr rfl
  | resolve id body => exact .inr (resolve_clock _ _ _)
  | failAll reason failure => exact .inr (failAll_clock _ _ _)
  | take => exact .inr (takeItem_clock _)
  | dropWriter => exact .inr (strand_clock _ _)
  | advance ms => exact .inl ⟨ms, rfl⟩

theorem turn_advance_clock (k : Desk) (ms : Nat) :
    (k.turn (.advance ms)).after.dispatcher.clock = k.dispatcher.clock + ms := by
  simp only [turn, reply, advanceTo]
  rw [expireDue_frame]

@[simp] theorem turn_before (k : Desk) (operation : Operation) : (k.turn operation).before = k := by
  cases operation <;> rfl

@[simp] theorem turn_operation (k : Desk) (operation : Operation) :
    (k.turn operation).operation = operation := by
  cases operation <;> rfl

/-! ## Operations that spare a task -/

theorem eq_of_entered {t : Turn} (inside : u ∈ t.entered) :
    t.operation = .take ∧ t.before.dispatcher.channel.take.2.1 = some u ∨ u = t.before.tasks := by
  rw [Turn.entered] at inside
  split at inside
  · next take => exact .inl ⟨take, Option.mem_toList.mp inside⟩
  split at inside
  · split at inside
    · exact .inr (List.mem_singleton.mp inside)
    · cases inside
  · cases inside

theorem mem_entered_of_offered {t : Turn} {item : Item} (offered : t.offered? = some item)
    (kind : t.operation.startsTask = true) :
    u ∈ t.entered ↔ u = t.before.tasks ∧
      (t.before.dispatcher.channel.push t.before.tasks item).1 = .entered := by
  rw [Turn.entered]
  split
  · next take =>
    rw [take] at kind
    cases kind
  rw [offered]
  dsimp only
  split
  · next enters => exact List.mem_singleton.trans ⟨fun own => ⟨own, enters⟩, fun both => both.1⟩
  · next refused => exact ⟨nofun, fun both => absurd both.2 refused⟩

theorem filter_new (old : u < k.tasks) {completions : List Completion}
    (own : ∀ c ∈ completions, c.ticket = k.tasks) : completions.filter (fun c => c.ticket = u) = [] := by
  refine List.filter_eq_nil_iff.mpr fun c member => ?_
  rw [own c member, decide_eq_true_eq]
  exact Nat.ne_of_gt old

theorem line_old {channel : Channel} {item : Item} (old : u < k.tasks)
    (line : ∀ w ∈ channel.waiting, w ∈ k.dispatcher.channel.waiting ∨ w = (k.tasks, item))
    (inside : u ∈ channel.waiting.map Prod.fst) : u ∈ k.dispatcher.line := by
  obtain ⟨w, member, rfl⟩ := List.mem_map.mp inside
  obtain known | rfl := line w member
  · exact List.mem_map_of_mem known
  · exact absurd old (Nat.lt_irrefl _)

/-- A turn that starts a task spares the older ones. -/
theorem spares_start {operation : Operation} {out : Dispatcher × List Completion}
    (starts : operation.startsTask = true) (old : u < k.tasks)
    (view : view out u = (k.dispatcher.send? u, []))
    (line : u ∈ out.1.line → u ∈ k.dispatcher.line) : (k.start operation out).Spares u where
  view := view
  entered inside := by
    obtain ⟨take, _⟩ | new := eq_of_entered inside
    · cases take.symm.trans (rfl : (k.start operation out).operation = operation)
      cases starts
    · exact Nat.ne_of_lt old new
  line := line

theorem spares_enqueue {operation : Operation} {item : Item} (starts : operation.startsTask = true)
    (old : u < k.tasks) : (k.start operation (k.dispatcher.enqueue k.tasks item)).Spares u := by
  obtain ⟨channel, completions, frame, line, own⟩ := enqueue_frame k.dispatcher k.tasks item
  rw [frame]
  exact spares_start starts old (Prod.ext rfl (filter_new old own)) (line_old old line)

theorem send?_enroll_other (old : u < k.tasks) (method : String) (timeout : Nat) :
    (k.dispatcher.enroll k.tasks method timeout).send? u = k.dispatcher.send? u := by
  rw [send?, enroll, List.find?_append, List.find?_cons_of_neg (by simpa using Nat.ne_of_gt old),
    List.find?_nil, Option.or_none]
  rfl

theorem spares_send (sound : k.dispatcher.Sound k.tasks) (old : u < k.tasks) (method : String)
    (params : Option Value) (timeout : Nat) : (k.turn (.send method params timeout)).Spares u := by
  have same := send?_enroll_other old method timeout
  have own : ∀ answer, [(⟨k.tasks, answer⟩ : Completion)].filter (fun c => c.ticket = u) = [] :=
    fun answer => filter_other answer (Nat.ne_of_gt old)
  refine spares_start rfl old ?_ ?_
  · rw [send]
    split
    · exact Prod.ext rfl (own _)
    dsimp only
    split
    · rw [cancel_enroll sound]
      exact Prod.ext rfl (own _)
    · exact Prod.ext same rfl
    · exact (view_arrive_other (Nat.ne_of_gt old)).trans (Prod.ext same rfl)
  · have line := push_waiting k.dispatcher.channel k.tasks
      (.message (request k.dispatcher.nextId method params))
    rw [send]
    split
    · exact fun inside => inside
    dsimp only
    split
    · rw [cancel_enroll sound]
      intro inside
      obtain ⟨w, member, rfl⟩ := List.mem_map.mp inside
      exact List.mem_map_of_mem (List.mem_filter.mp member).1
    · next channel pushed =>
      rw [pushed] at line
      exact line_old old line
    · next channel pushed =>
      rw [pushed] at line
      have message : Item.message (request k.dispatcher.nextId method params) = .close →
          k.tasks ∉ (k.dispatcher.enroll k.tasks method timeout).tickets := by rintro ⟨⟩
      have placed := (sound.enroll method timeout).channel (Nat.lt_succ_self _) message line
      have arrives := arrive_settles placed.matched (Nat.lt_succ_self k.tasks)
      intro inside
      obtain ⟨w, member, rfl⟩ := List.mem_map.mp inside
      exact line_old old line (List.mem_map_of_mem (arrives.line member))

/-- A turn that starts no task spares a task whose view it keeps, if it does not come to
its turn in line. -/
theorem spares_reply {operation : Operation} {answer : Answer} {out : Dispatcher × List Completion}
    (starts : operation.startsTask = false) (take : operation = .take → k.dispatcher.channel.take.2.1 ≠ some u)
    (view : view out u = (k.dispatcher.send? u, []))
    (line : out.1.channel.waiting ⊆ k.dispatcher.channel.waiting) :
    (k.reply operation answer out).Spares u where
  view := view
  entered inside := by
    cases operation with
    | take => exact take rfl (Option.mem_toList.mp inside)
    | send => cases starts
    | notify => cases starts
    | sendRaw => cases starts
    | closeWriter => cases starts
    | _ => cases inside
  line inside := by
    obtain ⟨w, member, rfl⟩ := List.mem_map.mp inside
    exact List.mem_map_of_mem (line member)

theorem spares_trySendRaw (frame : Value) : (k.turn (.trySendRaw frame)).Spares u := by
  obtain ⟨channel, same, line⟩ := tryEnqueue_frame k.dispatcher frame
  refine spares_reply rfl nofun ?_ ?_
  · rw [same]
    rfl
  · rw [same]
    exact line ▸ List.Subset.refl _

theorem spares_cancel {ticket : Ticket} (other : ticket ≠ u) : (k.turn (.cancel ticket)).Spares u :=
  spares_reply rfl nofun (Prod.ext (send?_cancel_other other) rfl) (cancel_waiting _ _)

theorem spares_resolve (sound : k.dispatcher.Sound k.tasks) (id : Nat) (body : Value)
    (others : ∀ p ∈ k.dispatcher.pending, p.id = id → p.ticket ≠ u) :
    (k.turn (.resolve id body)).Spares u := by
  refine spares_reply rfl nofun ?_ (resolve_settles sound id body).line
  rw [resolve]
  split
  · split <;> rfl
  · next p found =>
    have number : p.id = id := by simpa using List.find?_some found
    exact view_deliver_other _ (others p (List.mem_of_find?_eq_some found) number)

theorem spares_failAll (sound : k.dispatcher.Sound k.tasks) (reason : String) (failure : Failure)
    (others : u ∉ k.dispatcher.pending.map Pending.ticket) : (k.turn (.failAll reason failure)).Spares u :=
  spares_reply rfl nofun (view_deliverAll_other failure others)
    (failAll_settles sound reason failure).line

theorem spares_take (sound : k.dispatcher.Sound k.tasks)
    (other : k.dispatcher.channel.take.2.1 ≠ some u) : (k.turn .take).Spares u := by
  refine spares_reply rfl (fun _ => other) ?_ (takeItem_settles sound).line
  rw [takeItem]
  dsimp only
  split
  · rfl
  · next ticket entered =>
    exact view_arrive_other fun same => other (same ▸ entered)

theorem spares_dropWriter (others : u ∉ k.dispatcher.line) : (k.turn .dropWriter).Spares u :=
  spares_reply rfl nofun (view_strand_other others)
    (List.Subset.trans (dropWriter_strands k.dispatcher).waiting (List.nil_subset _))

theorem spares_advance (sound : k.dispatcher.Sound k.tasks) (ms : Nat) (gone : k.dispatcher.send? u = none) :
    (k.turn (.advance ms)).Spares u :=
  spares_reply rfl nofun (view_expireDue_other (send?_eq_none gone)) (advanceTo_settles sound _).line

/-- A task that is over is left alone. -/
theorem spares_gone (sound : k.dispatcher.Sound k.tasks) (old : u < k.tasks)
    (gone : k.dispatcher.send? u = none) (left : u ∉ k.dispatcher.line) (operation : Operation) :
    (k.turn operation).Spares u := by
  have absent : ∀ p ∈ k.dispatcher.pending, p.ticket ≠ u := by
    rintro p member rfl
    obtain ⟨s, found, _⟩ := sound.mem_pending.mp member
    cases gone.symm.trans found
  cases operation with
  | send method params timeout => exact spares_send sound old method params timeout
  | notify method params => exact spares_enqueue rfl old
  | sendRaw frame => exact spares_enqueue rfl old
  | closeWriter => exact spares_enqueue rfl old
  | trySendRaw frame => exact spares_trySendRaw frame
  | cancel ticket =>
    by_cases own : ticket = u
    · subst own
      exact spares_reply rfl nofun (Prod.ext ((send?_without _).trans gone.symm) rfl) (cancel_waiting _ _)
    · exact spares_cancel own
  | resolve id body => exact spares_resolve sound id body fun p member _ => absent p member
  | failAll reason failure =>
    refine spares_failAll sound reason failure fun inside => ?_
    obtain ⟨p, member, own⟩ := List.mem_map.mp inside
    exact absent p member own
  | take =>
    refine spares_take sound fun entered => ?_
    obtain ⟨item, inside⟩ := take_entered entered
    exact left (List.mem_map_of_mem inside)
  | dropWriter => exact spares_dropWriter left
  | advance ms => exact spares_advance sound ms gone

end Desk

namespace Dispatcher

theorem resolve_channel (d : Dispatcher) (id : Nat) (body : Value) :
    (d.resolve id body).2.1.channel = d.channel := by
  rw [resolve]
  split
  · split <;> rfl
  · rw [deliver_frame]
    rfl

theorem takeItem_channel (d : Dispatcher) : d.takeItem.2.1.channel = d.channel.take.2.2 := by
  rw [takeItem]
  dsimp only
  split
  · rfl
  · rw [arrive_frame]

/-- Who takes the freed room was first in line. -/
theorem take_line {d : Dispatcher} {u : Ticket} (h : d.channel.take.2.1 = some u) :
    d.line = u :: d.channel.take.2.2.waiting.map Prod.fst := by
  rw [line]
  rw [Channel.take] at h ⊢
  split at h
  · cases h
  · cases h
  · next ticket entering rest _ waiting =>
    cases h
    rw [waiting]
    rfl

end Dispatcher

namespace Desk

variable {k : Desk} {s : Send}

/-! ## Operations that concern a task -/

theorem expiries_filter {t : Turn} (kind : t.operation.rejects = false) (u : Ticket) :
    t.expiries.filter (fun c => c.ticket = u) = (t.reports u).filter fun c =>
        c.isTimeout && (t.before.dispatcher.pending ++ t.inserted).any fun p => p.ticket = c.ticket := by
  rw [Turn.expiries]
  split
  · next operation =>
    rw [operation] at kind
    cases kind
  · rw [Turn.reports, List.filter_filter, List.filter_filter]
    exact List.filter_congr fun c _ => Bool.and_comm _ _

theorem verdict?_of_other {t : Turn} (kind : t.operation.answers = false) (p : Pending) :
    t.verdict? p = none := by
  rw [Turn.verdict?]
  split
  · split
    · next operation =>
      rw [operation] at kind
      cases kind
    · next operation =>
      rw [operation] at kind
      cases kind
    · rfl
  · rfl

theorem meets_cancel (sound : k.dispatcher.Sound k.tasks) (found : k.dispatcher.send? s.ticket = some s) :
    (k.turn (.cancel s.ticket)).Meets s .cancelled where
  view := Prod.ext (send?_without _) rfl
  verdict := verdict?_of_other rfl _
  entered := ⟨nofun, nofun⟩
  cancels := by simp [Turn.cancels, turn, reply, sound.given found]
  expiries := Turn.expiries_eq_nil rfl
  isOpen := nofun
  room := nofun
  line inside := by
    obtain ⟨w, member, own⟩ := List.mem_map.mp inside
    exact absurd own (by simpa using (List.mem_filter.mp member).2)
  clock := .inr rfl

theorem not_open_after {out : Dispatcher × List Completion} {tasks : Nat} (after : out.1.Sound tasks)
    {clock : Nat} {verdict : Verdict} (seen : view out s.ticket = s.on clock (.answered verdict)) :
    s.entry ∉ out.1.pending := by
  intro member
  obtain ⟨t, found, waits, _⟩ := after.mem_pending.mp member
  have task : out.1.send? s.ticket = (s.on clock (.answered verdict)).1 := congrArg Prod.fst seen
  rw [show s.entry.ticket = s.ticket from rfl, task, Send.on] at found
  cases progress : s.progress with
  | sent deadline => simp [progress] at found
  | waiting answer =>
    simp only [progress, Option.some.injEq] at found
    rw [← found] at waits
    cases waits

theorem meets_resolve (sound : k.dispatcher.Sound k.tasks) (found : k.dispatcher.send? s.ticket = some s)
    (waits : s.isOpen = true) (body : Value) :
    (k.turn (.resolve s.id body)).Meets s (.answered (.response body)) := by
  have entry := (sound.entry_mem found).mpr waits
  have looked : k.dispatcher.pending.find? (fun p => p.id = s.id) = some s.entry := by
    cases other : k.dispatcher.pending.find? (fun p => p.id = s.id) with
    | none => simpa [Send.entry] using List.find?_eq_none.mp other _ entry
    | some p =>
      have same : p.id = s.id := by simpa using List.find?_some other
      exact congrArg some
        (List.inj_on_of_nodup_map sound.matched.entry_ids (List.mem_of_find?_eq_some other) entry same)
  have seen : view (k.dispatcher.resolve s.id body).2 s.ticket =
      s.on k.dispatcher.clock (.answered (.response body)) := by
    rw [resolve, looked]
    exact view_deliver (.response body) found
  have after := (accounts sound (.resolve s.id body)).sound
  have clock := resolve_clock k.dispatcher s.id body
  refine ⟨?_, ?_, ⟨by rintro ⟨⟩, by rintro ⟨⟩⟩, ⟨by rintro ⟨⟩, by rintro ⟨⟩⟩, ?_, fun _ _ => waits,
    by rintro ⟨⟩, fun inside => ⟨.inl ?_, rfl⟩, .inr clock⟩
  · refine seen.trans ?_
    rw [← clock]
    rfl
  · exact if_pos ⟨entry, not_open_after after seen⟩
  · rw [expiries_filter rfl]
    have reports : (k.turn (.resolve s.id body)).reports s.ticket =
        (s.on k.dispatcher.clock (.answered (.response body))).2 := congrArg Prod.snd seen
    rw [reports, Send.on]
    have answer : ∀ ticket, (⟨ticket, Verdict.outcome s.method (.response body)⟩ : Completion).isTimeout = false := by
      intro ticket
      rw [Completion.isTimeout, Verdict.outcome, outcomeOf]
      cases responseError? body <;> rfl
    cases s.progress with
    | sent deadline => simp [Turn.lapses, answer]
    | waiting _ => rfl
  · obtain ⟨w, member, own⟩ := List.mem_map.mp inside
    exact own ▸ List.mem_map_of_mem ((resolve_settles sound s.id body).line member)

theorem meets_failAll (sound : k.dispatcher.Sound k.tasks) (found : k.dispatcher.send? s.ticket = some s)
    (waits : s.isOpen = true) (reason : String) (failure : Failure) :
    (k.turn (.failAll reason failure)).Meets s (.answered (.failure failure)) := by
  have entry := (sound.entry_mem found).mpr waits
  have seen : view (k.dispatcher.failAll reason failure).2 s.ticket =
      s.on k.dispatcher.clock (.answered (.failure failure)) :=
    view_deliverAll failure sound.matched.entry_tickets (List.mem_map_of_mem entry) found
  have after := (accounts sound (.failAll reason failure)).sound
  have clock := failAll_clock k.dispatcher reason failure
  refine ⟨?_, ?_, ⟨nofun, nofun⟩, ⟨nofun, nofun⟩, rfl, fun _ _ => waits, nofun,
    fun inside => ⟨.inl ?_, rfl⟩, .inr clock⟩
  · refine seen.trans ?_
    rw [← clock]
    rfl
  · exact if_pos ⟨entry, not_open_after after seen⟩
  · obtain ⟨w, member, own⟩ := List.mem_map.mp inside
    exact own ▸ List.mem_map_of_mem ((failAll_settles sound reason failure).line member)

/-- Who enters the channel expires at once without a timeout, unless it was answered before:
an answer takes the entry with it. -/
theorem admitted_expiries (s : Send) (clock : Nat) {table : List Pending}
    (listed : (table.any fun p => p.ticket = s.ticket) = s.isOpen) :
    (s.on clock .admitted).2.filter (fun c => c.isTimeout && table.any fun p => p.ticket = c.ticket) =
      Turn.lapses s clock .admitted := by
  simp only [Turn.lapses, Send.on]
  cases progress : s.progress with
  | sent deadline => simp
  | waiting answer =>
    cases answer with
    | some answer =>
      have answered : s.isOpen = false := by rw [Send.isOpen, progress]
      simp [listed, answered]
    | none =>
      have waits : s.isOpen = true := by rw [Send.isOpen, progress]
      by_cases instant : s.timeout = 0
      · simp [instant, waits, listed, Send.lapse, Completion.isTimeout]
      · simp [instant]

theorem meets_take (sound : k.dispatcher.Sound k.tasks) (distinct : k.dispatcher.line.Nodup)
    (found : k.dispatcher.send? s.ticket = some s)
    (enters : k.dispatcher.channel.take.2.1 = some s.ticket) : (k.turn .take).Meets s .admitted := by
  have seen : view k.dispatcher.takeItem.2 s.ticket = s.on k.dispatcher.clock .admitted := by
    rw [takeItem]
    dsimp only
    rw [enters]
    exact view_arrive found
  have clock := takeItem_clock k.dispatcher
  refine ⟨?_, verdict?_of_other rfl _, ⟨fun _ => rfl, fun _ => ?_⟩, ⟨by rintro ⟨⟩, by rintro ⟨⟩⟩, ?_,
    by rintro _ ⟨⟩, fun _ => .inl ?_, fun inside => ?_, .inr clock⟩
  · refine seen.trans ?_
    rw [← clock]
    rfl
  · exact Option.mem_toList.mpr enters
  · have reports : (k.turn .take).reports s.ticket = (s.on k.dispatcher.clock .admitted).2 :=
      congrArg Prod.snd seen
    rw [expiries_filter rfl, reports, show (k.turn .take).after.dispatcher.clock = k.dispatcher.clock from clock]
    refine admitted_expiries s k.dispatcher.clock ?_
    rw [show (k.turn .take).inserted = [] from rfl, List.append_nil, Bool.eq_iff_iff, List.any_eq_true]
    constructor
    · rintro ⟨p, member, own⟩
      obtain ⟨t, same, waits, rfl⟩ := sound.mem_pending.mp member
      rw [of_decide_eq_true own, found] at same
      cases same
      exact waits
    · exact fun waits => ⟨s.entry, (sound.entry_mem found).mpr waits, decide_eq_true rfl⟩
  · change s.ticket ∈ k.dispatcher.line
    rw [take_line enters]
    exact List.mem_cons_self
  · have channel : (k.turn .take).after.dispatcher.channel = k.dispatcher.channel.take.2.2 :=
      takeItem_channel _
    rw [take_line enters, List.nodup_cons] at distinct
    rw [line, channel] at inside
    exact absurd inside distinct.1

theorem meets_dropWriter (sound : k.dispatcher.Sound k.tasks) (distinct : k.dispatcher.line.Nodup)
    (found : k.dispatcher.send? s.ticket = some s) (inside : s.ticket ∈ k.dispatcher.line) :
    (k.turn .dropWriter).Meets s .stranded := by
  obtain ⟨⟨u, item⟩, member, own⟩ := List.mem_map.mp inside
  dsimp only at own
  subst own
  have task : s.ticket ∈ k.dispatcher.tickets := List.mem_map_of_mem (send?_eq_some found).1
  have seen : view k.dispatcher.dropWriter s.ticket = (none, [⟨s.ticket, .error .writerClosed⟩]) := by
    refine (view_strand distinct member).trans ?_
    cases item with
    | close => exact absurd task ((sound.line _ member).2 rfl)
    | message frame => rfl
  refine ⟨seen, verdict?_of_other rfl _, ⟨nofun, nofun⟩, ⟨nofun, nofun⟩, ?_, nofun,
    fun _ => .inl inside, fun again => ?_, .inr (strand_clock _ _)⟩
  · rw [expiries_filter rfl, show (k.turn .dropWriter).reports s.ticket = _ from congrArg Prod.snd seen]
    rfl
  · obtain ⟨w, later, _⟩ := List.mem_map.mp again
    exact absurd ((dropWriter_strands k.dispatcher).waiting later) List.not_mem_nil

theorem meets_advance (sound : k.dispatcher.Sound k.tasks) (found : k.dispatcher.send? s.ticket = some s)
    (ms : Nat) : (k.turn (.advance ms)).Meets s .time := by
  obtain ⟨member, _⟩ := send?_eq_some found
  have clock := turn_advance_clock k ms
  have seen : view (k.dispatcher.advanceTo (k.dispatcher.clock + ms)) s.ticket =
      s.on (k.dispatcher.clock + ms) .time :=
    view_expireDue (d := { k.dispatcher with clock := k.dispatcher.clock + ms }) sound.matched.tickets
      member found
  refine ⟨?_, verdict?_of_other rfl _, ⟨nofun, nofun⟩, ⟨nofun, nofun⟩, ?_, nofun, nofun,
    fun inside => ⟨.inl ?_, rfl⟩, .inl rfl⟩
  · rw [clock]
    exact seen
  · have reports : (k.turn (.advance ms)).reports s.ticket = (s.on (k.dispatcher.clock + ms) .time).2 :=
      congrArg Prod.snd seen
    rw [expiries_filter rfl, reports, clock]
    refine List.filter_eq_self.mpr fun c inside => ?_
    obtain ⟨deadline, progress, due⟩ | later :=
      due_or_later { k.dispatcher with clock := k.dispatcher.clock + ms } s
    · rw [on_time_due progress due] at inside
      obtain rfl := List.mem_singleton.mp inside
      have waits : s.isOpen = true := by rw [Send.isOpen, progress]
      refine List.any_eq_true.mpr ⟨s.entry, ?_, decide_eq_true rfl⟩
      exact List.mem_append_left _ ((sound.entry_mem found).mpr waits)
    · rw [on_time_later later] at inside
      cases inside
  · obtain ⟨w, waits, own⟩ := List.mem_map.mp inside
    exact own ▸ List.mem_map_of_mem ((advanceTo_settles sound _).line waits)

/-- Every turn is one event for every task that is there. -/
theorem meets (sound : k.dispatcher.Sound k.tasks) (distinct : k.dispatcher.line.Nodup)
    (found : k.dispatcher.send? s.ticket = some s) (operation : Operation) :
    ∃ e, (k.turn operation).Meets s e := by
  have after := (accounts sound operation).sound
  have old := sound.given found
  have spared {t : Turn} (spares : t.Spares s.ticket) (before : t.before = k)
      (books : t.after.dispatcher.Sound t.after.tasks)
      (kind : ∀ ticket, t.operation = .cancel ticket → ticket ≠ s.ticket)
      (clock : t.after.dispatcher.clock = k.dispatcher.clock) : ∃ e, t.Meets s e := by
    subst before
    exact ⟨_, spares.meets sound books found kind clock⟩
  cases operation with
  | send method params timeout =>
    exact spared (spares_send sound old method params timeout) rfl after nofun (send_clock _ _ _ _ _)
  | notify method params => exact spared (spares_enqueue rfl old) rfl after nofun (enqueue_clock _ _ _)
  | sendRaw frame => exact spared (spares_enqueue rfl old) rfl after nofun (enqueue_clock _ _ _)
  | closeWriter => exact spared (spares_enqueue rfl old) rfl after nofun (enqueue_clock _ _ _)
  | trySendRaw frame =>
    exact spared (spares_trySendRaw frame) rfl after nofun
      ((turn_clock k (.trySendRaw frame)).resolve_left nofun)
  | cancel ticket =>
    by_cases own : ticket = s.ticket
    · subst own
      exact ⟨_, meets_cancel sound found⟩
    · refine spared (spares_cancel own) rfl after ?_ rfl
      rintro _ ⟨⟩
      exact own
  | resolve id body =>
    by_cases own : s.isOpen = true ∧ s.id = id
    · obtain ⟨waits, rfl⟩ := own
      exact ⟨_, meets_resolve sound found waits body⟩
    · refine spared (spares_resolve sound id body ?_) rfl after nofun (resolve_clock _ _ _)
      rintro p member number ticket
      obtain ⟨t, same, waits, rfl⟩ := sound.mem_pending.mp member
      rw [ticket, found] at same
      cases same
      exact own ⟨waits, number⟩
  | failAll reason failure =>
    by_cases waits : s.isOpen = true
    · exact ⟨_, meets_failAll sound found waits reason failure⟩
    · refine spared (spares_failAll sound reason failure fun inside => ?_) rfl after nofun
        (failAll_clock _ _ _)
      obtain ⟨p, member, ticket⟩ := List.mem_map.mp inside
      obtain ⟨t, same, isOpen, _⟩ := sound.mem_pending.mp member
      rw [ticket, found] at same
      cases same
      exact waits isOpen
  | take =>
    by_cases enters : k.dispatcher.channel.take.2.1 = some s.ticket
    · exact ⟨_, meets_take sound distinct found enters⟩
    · exact spared (spares_take sound enters) rfl after nofun (takeItem_clock _)
  | dropWriter =>
    by_cases inside : s.ticket ∈ k.dispatcher.line
    · exact ⟨_, meets_dropWriter sound distinct found inside⟩
    · exact spared (spares_dropWriter inside) rfl after nofun (strand_clock _ _)
  | advance ms => exact ⟨_, meets_advance sound found ms⟩

/-! ## New requests and the line -/

theorem tasks_not_in_line (sound : k.dispatcher.Sound k.tasks) : k.tasks ∉ k.dispatcher.line := by
  intro inside
  obtain ⟨w, member, own⟩ := List.mem_map.mp inside
  exact Nat.ne_of_lt (sound.line w member).1 own

theorem push_entered {c channel : Channel} {ticket : Ticket} {item : Item}
    (pushed : c.push ticket item = (.entered, channel)) : channel.waiting = c.waiting := by
  rw [Channel.push] at pushed
  split at pushed
  · cases pushed
  split at pushed
  · cases pushed
    rfl
  · cases pushed

/-- What stays the same of every turn that issues a request: it answers and cancels
nobody. -/
theorem meets_of_send {method : String} {params : Option Value} {timeout : Nat} {s : Send} {e : Happening}
    (own : s.ticket = k.tasks)
    (view : view (k.dispatcher.send k.tasks method params timeout) s.ticket = s.on k.dispatcher.clock e)
    (kind : Turn.verdictOf e = none ∧ e ≠ .cancelled ∧ e ≠ .time)
    (entered : s.ticket ∈ (k.turn (.send method params timeout)).entered ↔ e = .admitted)
    (expiries : (k.turn (.send method params timeout)).expiries.filter (fun c => c.ticket = s.ticket) =
      Turn.lapses s k.dispatcher.clock e)
    (line : s.ticket ∈ (k.dispatcher.send k.tasks method params timeout).1.line → Turn.leavesLine e = false) :
    (k.turn (.send method params timeout)).Meets s e := by
  have clock := send_clock k.dispatcher k.tasks method params timeout
  refine ⟨?_, (verdict?_of_other rfl _).trans kind.1.symm, entered,
    ⟨nofun, fun cancelled => absurd cancelled kind.2.1⟩, ?_, ?_, fun _ => .inr own,
    fun inside => ⟨.inr own, line inside⟩, .inr clock⟩
  · rw [← clock] at view
    exact view
  · rw [← clock] at expiries
    exact expiries
  · rintro verdict rfl
    cases kind.1

section NewTask

variable {method : String} {params : Option Value} {timeout : Nat}

/-- The task of a request that is issued next. -/
def newTask (k : Desk) (method : String) (timeout : Nat) : Send :=
  ⟨k.tasks, k.dispatcher.nextId, method, timeout, .waiting none⟩

theorem task_unknown (sound : k.dispatcher.Sound k.tasks) : k.dispatcher.send? k.tasks = none := by
  cases found : k.dispatcher.send? k.tasks with
  | none => rfl
  | some s => exact absurd (sound.given found) (Nat.lt_irrefl _)

theorem expiries_send {answer : Outcome} {out : Dispatcher}
    (silent : (⟨k.tasks, answer⟩ : Completion).isTimeout = false)
    (sends : k.dispatcher.send k.tasks method params timeout = (out, [⟨k.tasks, answer⟩])) :
    (k.turn (.send method params timeout)).expiries.filter (fun c => c.ticket = k.tasks) = [] := by
  rw [expiries_filter rfl, Turn.reports]
  change List.filter _ (List.filter _ (k.dispatcher.send k.tasks method params timeout).2) = _
  rw [sends, filter_own, List.filter_cons_of_neg (by simp [silent]), List.filter_nil]

theorem entered_send (isOpen : k.dispatcher.refusal = none) :
    k.tasks ∈ (k.turn (.send method params timeout)).entered ↔
      (k.dispatcher.channel.push k.tasks (.message (request k.dispatcher.nextId method params))).1 = .entered := by
  have offered : (k.turn (.send method params timeout)).offered? =
      some (.message (request k.dispatcher.nextId method params)) := by
    simp [Turn.offered?, turn, start, isOpen]
  exact (mem_entered_of_offered offered rfl).trans ⟨fun enters => enters.2, fun enters => ⟨rfl, enters⟩⟩

theorem meets_send_refused (sound : k.dispatcher.Sound k.tasks) {reason : String}
    (refusal : k.dispatcher.refusal = some reason) :
    (k.turn (.send method params timeout)).Meets (k.newTask method timeout) (.refused reason) := by
  have sends : k.dispatcher.send k.tasks method params timeout = _ := send_of_refusal refusal
  refine meets_of_send rfl ?_ ⟨rfl, nofun, nofun⟩ ⟨fun inside => ?_, nofun⟩ (expiries_send rfl sends) ?_
  · rw [sends]
    exact Prod.ext (task_unknown sound) (filter_own _)
  · simp [newTask, Turn.entered, Turn.offered?, turn, start, refusal] at inside
  · rw [sends]
    exact fun inside => absurd inside (tasks_not_in_line sound)

variable {channel : Channel}

theorem meets_send_closed (sound : k.dispatcher.Sound k.tasks) (isOpen : k.dispatcher.refusal = none)
    (pushed : k.dispatcher.channel.push k.tasks (.message (request k.dispatcher.nextId method params)) =
      (.refused, channel)) :
    (k.turn (.send method params timeout)).Meets (k.newTask method timeout) .stranded := by
  have sends : k.dispatcher.send k.tasks method params timeout = _ := send_of_closed isOpen pushed
  rw [cancel_enroll sound] at sends
  refine meets_of_send rfl ?_ ⟨rfl, nofun, nofun⟩ ⟨fun inside => ?_, nofun⟩ (expiries_send rfl sends) ?_
  · rw [sends]
    exact Prod.ext (task_unknown sound) (filter_own _)
  · have entered := (entered_send isOpen).mp inside
    rw [pushed] at entered
    cases entered
  · rw [sends]
    intro inside
    have known : k.tasks ∈ k.dispatcher.line := (List.filter_sublist.map Prod.fst).subset inside
    exact absurd known (tasks_not_in_line sound)

theorem meets_send_waits (sound : k.dispatcher.Sound k.tasks) (isOpen : k.dispatcher.refusal = none)
    (pushed : k.dispatcher.channel.push k.tasks (.message (request k.dispatcher.nextId method params)) =
      (.waits, channel)) :
    (k.turn (.send method params timeout)).Meets (k.newTask method timeout) .nothing := by
  have sends : k.dispatcher.send k.tasks method params timeout = _ := send_of_waits isOpen pushed
  refine meets_of_send rfl ?_ ⟨rfl, nofun, nofun⟩ ⟨fun inside => ?_, nofun⟩ ?_ fun _ => rfl
  · rw [sends]
    exact Prod.ext (send?_enroll sound method timeout) rfl
  · have entered := (entered_send isOpen).mp inside
    rw [pushed] at entered
    cases entered
  · refine Turn.expiries_eq_nil ?_
    change List.filter _ (k.dispatcher.send k.tasks method params timeout).2 = _
    rw [sends]
    rfl

theorem meets_send_entered (sound : k.dispatcher.Sound k.tasks) (isOpen : k.dispatcher.refusal = none)
    (pushed : k.dispatcher.channel.push k.tasks (.message (request k.dispatcher.nextId method params)) =
      (.entered, channel)) :
    (k.turn (.send method params timeout)).Meets (k.newTask method timeout) .admitted := by
  have sends : k.dispatcher.send k.tasks method params timeout = _ := send_of_entered isOpen pushed
  have seen : view (k.dispatcher.send k.tasks method params timeout) k.tasks =
      (k.newTask method timeout).on k.dispatcher.clock .admitted := by
    rw [sends]
    exact view_arrive (d := { k.dispatcher.enroll k.tasks method timeout with channel })
      (send?_enroll sound method timeout)
  refine meets_of_send rfl seen ⟨rfl, nofun, nofun⟩ ⟨fun _ => rfl, fun _ => ?_⟩ ?_ ?_
  · exact (entered_send isOpen).mpr (congrArg Prod.fst pushed)
  · have reports : (k.turn (.send method params timeout)).reports (k.newTask method timeout).ticket = _ :=
      congrArg Prod.snd seen
    have table : (k.turn (.send method params timeout)).inserted =
        [(k.newTask method timeout).entry] := inserted_of_open _ _ _ _ isOpen
    rw [expiries_filter rfl, reports, table]
    refine admitted_expiries _ _ (List.any_eq_true.mpr ⟨(k.newTask method timeout).entry, ?_, decide_eq_true rfl⟩)
    exact List.mem_append_right _ (List.mem_singleton_self _)
  · rw [sends, line, arrive_frame]
    intro inside
    rw [push_entered pushed] at inside
    exact absurd inside (tasks_not_in_line sound)

end NewTask

/-- A turn that issues a request means an event for its new task. -/
theorem meets_new (sound : k.dispatcher.Sound k.tasks) (method : String) (params : Option Value)
    (timeout : Nat) : ∃ e, (k.turn (.send method params timeout)).Meets (k.newTask method timeout) e := by
  cases refusal : k.dispatcher.refusal with
  | some reason => exact ⟨_, meets_send_refused sound refusal⟩
  | none =>
    cases pushed : k.dispatcher.channel.push k.tasks (.message (request k.dispatcher.nextId method params)) with
    | mk result channel =>
    cases result with
    | refused => exact ⟨_, meets_send_closed sound refusal pushed⟩
    | waits => exact ⟨_, meets_send_waits sound refusal pushed⟩
    | entered => exact ⟨_, meets_send_entered sound refusal pushed⟩

end Desk

/-! ## The line -/

namespace Dispatcher

theorem push_line (c : Channel) (ticket : Ticket) (item : Item) :
    ((c.push ticket item).2.waiting.map Prod.fst).Sublist (c.waiting.map Prod.fst ++ [ticket]) := by
  rw [Channel.push]
  split
  · exact List.sublist_append_left _ _
  split
  · exact List.sublist_append_left _ _
  · rw [List.map_append]
    exact List.Sublist.refl _

theorem enqueue_line (d : Dispatcher) (ticket : Ticket) (item : Item) :
    (d.enqueue ticket item).1.line.Sublist (d.line ++ [ticket]) := by
  have line := push_line d.channel ticket item
  unfold enqueue
  split
  · next channel pushed =>
    rw [pushed] at line
    exact line
  · next channel pushed =>
    rw [pushed] at line
    exact line
  · split <;> exact List.sublist_append_left _ _

theorem send_line (d : Dispatcher) (ticket : Ticket) (method : String) (params : Option Value) (timeout : Nat) :
    (d.send ticket method params timeout).1.line.Sublist (d.line ++ [ticket]) := by
  have line := push_line d.channel ticket (.message (request d.nextId method params))
  rw [send]
  split
  · exact List.sublist_append_left _ _
  dsimp only
  split
  · exact (List.filter_sublist.map Prod.fst).trans (List.sublist_append_left _ _)
  · next channel pushed =>
    rw [pushed] at line
    exact line
  · next channel pushed =>
    rw [pushed] at line
    rw [Dispatcher.line, arrive_frame]
    exact line

theorem takeItem_line (d : Dispatcher) : d.takeItem.2.1.line.Sublist d.line := by
  rw [line, takeItem_channel]
  refine List.Sublist.map _ ?_
  rw [Channel.take]
  split
  · exact List.Sublist.refl _
  · exact List.Sublist.refl _
  · next waiting =>
    rw [waiting]
    exact List.sublist_cons_self _ _

end Dispatcher

namespace Desk

/-- The line is the old one without some tasks, and perhaps with the new one behind. -/
theorem turn_line (k : Desk) (operation : Operation) :
    (k.turn operation).after.dispatcher.line.Sublist (k.dispatcher.line ++ [k.tasks]) := by
  have front : k.dispatcher.line.Sublist (k.dispatcher.line ++ [k.tasks]) := List.sublist_append_left _ _
  cases operation with
  | send method params timeout => exact send_line _ _ _ _ _
  | notify method params => exact enqueue_line _ _ _
  | sendRaw frame => exact enqueue_line _ _ _
  | closeWriter => exact enqueue_line _ _ _
  | trySendRaw frame =>
    obtain ⟨channel, same, line⟩ := tryEnqueue_frame k.dispatcher frame
    change (k.dispatcher.tryEnqueue frame).2.line.Sublist _
    rw [same, Dispatcher.line, line]
    exact front
  | cancel ticket => exact (List.filter_sublist.map Prod.fst).trans front
  | resolve id body =>
    change (k.dispatcher.resolve id body).2.1.line.Sublist _
    rw [Dispatcher.line, resolve_channel]
    exact front
  | failAll reason failure =>
    change (k.dispatcher.failAll reason failure).2.1.line.Sublist _
    rw [Dispatcher.line, failAll, deliverAll_frame]
    exact front
  | take => exact (takeItem_line k.dispatcher).trans front
  | dropWriter =>
    have empty := (dropWriter_strands k.dispatcher).waiting
    change k.dispatcher.dropWriter.1.line.Sublist _
    rw [Dispatcher.line, List.eq_nil_of_subset_nil empty]
    exact List.nil_sublist _
  | advance ms =>
    change (k.dispatcher.advanceTo (k.dispatcher.clock + ms)).1.line.Sublist _
    rw [Dispatcher.line, advanceTo, expireDue_frame]
    exact front

end Desk

end BlockDiscovery.Session
