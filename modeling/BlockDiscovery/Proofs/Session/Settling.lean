import BlockDiscovery.Proofs.Session.Table

/-! # How tasks settle

What each part of the dispatcher does to the table, the tasks and the counters.  An
entry leaves the table only together with its task or with the answer of the task, and
whenever it leaves for an answer, a timeout or a failure it is counted.
-/

namespace BlockDiscovery.Session

open BlockDiscovery.Json BlockDiscovery.Protocol

/-- Whether a task ends because the writer takes no frames. -/
def Completion.isWriterClosed (c : Completion) : Bool :=
  match c.outcome with
  | .error .writerClosed => true
  | _ => false

namespace Dispatcher

/-- The requests that came to a counted end, and those that are pending. -/
def settled (d : Dispatcher) : Nat :=
  d.stats.resolved + d.stats.timedOut + d.stats.failed + d.pending.length

theorem settled_of_stats {d e : Dispatcher} {n m : Nat} (stats : e.stats = d.stats)
    (pending : e.pending.length + n = d.pending.length + m) : e.settled + n = d.settled + m := by
  simp only [settled, stats]
  omega

/-- The responses that were counted. -/
def responses (d : Dispatcher) : Nat := d.stats.resolved + d.stats.late

/-- The tickets of the requests that have not ended. -/
def tickets (d : Dispatcher) : List Ticket := d.sends.map Send.ticket

/-- What holds of a dispatcher with which `tasks` tasks were started: the table and the
tasks match, and nobody in line to close the writer is a request. -/
structure Sound (tasks : Nat) (d : Dispatcher) : Prop where
  matched : Matched tasks d.nextId d.pending d.sends
  line : ∀ w ∈ d.channel.waiting, w.1 < tasks ∧ (w.2 = .close → w.1 ∉ d.tickets)

/-- Some tasks end, and `answers` responses are counted.  Every entry that leaves the
table is counted, no task and no entry is new, and a task that has ended is gone. -/
structure Settles (tasks answers : Nat) (d : Dispatcher) (out : Dispatcher × List Completion) :
    Prop where
  matched : Matched tasks d.nextId out.1.pending out.1.sends
  nextId : out.1.nextId = d.nextId
  line : out.1.channel.waiting ⊆ d.channel.waiting
  settled : out.1.settled = d.settled
  responses : out.1.responses = d.responses + answers
  entries : out.1.pending ⊆ d.pending
  tickets : out.1.tickets ⊆ d.tickets
  ended : ∀ c ∈ out.2, c.ticket < tasks ∧ c.ticket ∉ out.1.tickets

variable {tasks answers : Nat} {d : Dispatcher}

theorem Settles.sound {out : Dispatcher × List Completion} (h : Settles tasks answers d out)
    (sound : Sound tasks d) : Sound tasks out.1 where
  matched := h.nextId.symm ▸ h.matched
  line w member := by
    obtain ⟨given, close⟩ := sound.line w (h.line member)
    exact ⟨given, fun item inside => close item (h.tickets inside)⟩

/-- Tasks end or go on while the table stays as it is. -/
theorem settles_of_sends {sends : List Send} {completions : List Completion}
    (matched : Matched tasks d.nextId d.pending sends) (tickets : sends.map Send.ticket ⊆ d.tickets)
    (ended : ∀ c ∈ completions, c.ticket < tasks ∧ c.ticket ∉ sends.map Send.ticket) :
    Settles tasks 0 d ({ d with sends }, completions) where
  matched := matched
  nextId := rfl
  line := List.Subset.refl _
  settled := rfl
  responses := rfl
  entries := List.Subset.refl _
  tickets := tickets
  ended := ended

theorem Settles.refl (h : Matched tasks d.nextId d.pending d.sends) : Settles tasks 0 d (d, []) :=
  settles_of_sends h (List.Subset.refl _) (List.forall_mem_nil _)

theorem Settles.trans {e f : Dispatcher} {first more : List Completion}
    (h : Settles tasks 0 d (e, first)) (later : Settles tasks 0 e (f, more)) :
    Settles tasks 0 d (f, first ++ more) where
  matched := h.nextId ▸ later.matched
  nextId := later.nextId.trans h.nextId
  line := List.Subset.trans later.line h.line
  settled := later.settled.trans h.settled
  responses := later.responses.trans h.responses
  entries := List.Subset.trans later.entries h.entries
  tickets := List.Subset.trans later.tickets h.tickets
  ended c member := by
    obtain early | late := List.mem_append.mp member
    · exact ⟨(h.ended c early).1, fun inside => (h.ended c early).2 (later.tickets inside)⟩
    · exact later.ended c late

/-- Tasks settle after a change that keeps the tasks and the sums. -/
theorem Settles.after {e : Dispatcher} {out : Dispatcher × List Completion}
    (h : Settles tasks 0 e out) (nextId : e.nextId = d.nextId)
    (line : e.channel.waiting ⊆ d.channel.waiting) (settled : e.settled = d.settled)
    (responses : e.responses = d.responses + answers) (entries : e.pending ⊆ d.pending)
    (tickets : e.tickets = d.tickets) : Settles tasks answers d out where
  matched := nextId ▸ h.matched
  nextId := h.nextId.trans nextId
  line := List.Subset.trans h.line line
  settled := h.settled.trans settled
  responses := h.responses.trans responses
  entries := List.Subset.trans h.entries entries
  tickets := tickets ▸ h.tickets
  ended := h.ended

/-! ## Tasks by their tickets -/

theorem send?_eq_some {ticket : Ticket} {s : Send} (h : d.send? ticket = some s) :
    s ∈ d.sends ∧ s.ticket = ticket :=
  ⟨List.mem_of_find?_eq_some h, by simpa using List.find?_some h⟩

theorem send?_eq_none {ticket : Ticket} (h : d.send? ticket = none) : ticket ∉ d.tickets := by
  intro member
  obtain ⟨s, inside, rfl⟩ := List.mem_map.mp member
  simpa using List.find?_eq_none.mp h s inside

theorem not_mem_without (ticket : Ticket) (sends : List Send) :
    ticket ∉ (without ticket sends).map Send.ticket := by
  intro member
  obtain ⟨s, inside, same⟩ := List.mem_map.mp member
  simpa [same] using (List.mem_filter.mp inside).2

theorem tickets_without (ticket : Ticket) (sends : List Send) :
    (without ticket sends).map Send.ticket ⊆ sends.map Send.ticket :=
  (List.filter_sublist.map Send.ticket).subset

theorem tickets_progressed (ticket : Ticket) (progress : Progress) (sends : List Send) :
    (progressed ticket progress sends).map Send.ticket ⊆ sends.map Send.ticket := by
  rw [map_ticket_progressed]
  exact List.Subset.refl _

/-! ## Time and the channel -/

theorem expire_settles {s : Send} (h : Matched tasks d.nextId d.pending d.sends)
    (member : s ∈ d.sends) (waits : s.isOpen = true) :
    Settles tasks 0 d ((d.expire s).1, [(d.expire s).2]) where
  matched := by
    have rest := h.without s.ticket
    rw [← h.filter_id member] at rest
    exact rest
  nextId := rfl
  line := List.Subset.refl _
  settled := by
    have entry := h.length_struck member waits
    have pending : (d.expire s).1.pending = struck s.ticket d.pending := h.filter_id member
    simp only [Dispatcher.settled, pending]
    simp only [expire, removePending, removeSend]
    omega
  responses := rfl
  entries := List.filter_subset_self _
  tickets := tickets_without s.ticket d.sends
  ended c inside := by
    obtain rfl := List.mem_singleton.mp inside
    exact ⟨(h.given s member).1, not_mem_without s.ticket d.sends⟩

/-- The arrival of a frame ends its task, lets it expire or makes it wait. -/
theorem arrive_settles (h : Matched tasks d.nextId d.pending d.sends) {ticket : Ticket}
    (given : ticket < tasks) : Settles tasks 0 d (d.arrive ticket) := by
  rw [arrive]
  split
  · next none =>
    refine settles_of_sends h (List.Subset.refl _) fun c inside => ?_
    obtain rfl := List.mem_singleton.mp inside
    exact ⟨given, send?_eq_none none⟩
  next s found =>
  obtain ⟨member, rfl⟩ := send?_eq_some found
  split
  · next answer progress =>
    have answered : s.isOpen = false := by rw [Send.isOpen, progress]
    have rest := h.without s.ticket
    rw [h.struck_answered member answered] at rest
    refine settles_of_sends rest (tickets_without s.ticket d.sends) fun c inside => ?_
    obtain rfl := List.mem_singleton.mp inside
    exact ⟨given, not_mem_without s.ticket d.sends⟩
  · next progress =>
    have waits : s.isOpen = true := by rw [Send.isOpen, progress]
    split
    · exact expire_settles h member waits
    · have rest := h.sent (d.clock + s.timeout) fun t inside same =>
        h.same_ticket inside member same ▸ waits
      exact settles_of_sends rest (tickets_progressed _ _ d.sends) (List.forall_mem_nil _)
  · exact .refl h

theorem take_entered {c : Channel} {ticket : Ticket} (h : c.take.2.1 = some ticket) :
    ∃ item, (ticket, item) ∈ c.waiting := by
  rw [Channel.take] at h
  split at h
  · cases h
  · cases h
  · next ticket entering line _ waiting =>
    cases h
    exact ⟨entering, waiting ▸ List.mem_cons_self⟩

theorem take_waiting (c : Channel) : c.take.2.2.waiting ⊆ c.waiting := by
  rw [Channel.take]
  split
  · exact List.Subset.refl _
  · exact List.Subset.refl _
  · next waiting =>
    rw [waiting]
    exact List.subset_cons_self _ _

theorem takeItem_settles (h : Sound tasks d) : Settles tasks 0 d d.takeItem.2 := by
  have settles : Settles tasks 0 { d with channel := d.channel.take.2.2 } d.takeItem.2 := by
    rw [takeItem]
    dsimp only
    split
    · exact .refl h.matched
    · next ticket entered =>
      obtain ⟨item, inside⟩ := take_entered entered
      exact arrive_settles (d := { d with channel := d.channel.take.2.2 }) h.matched (h.line _ inside).1
  exact settles.after rfl (take_waiting d.channel) rfl rfl (List.Subset.refl _) rfl

theorem expireDue_settles {sends : List Send} (h : Matched tasks d.nextId d.pending d.sends)
    (present : ∀ s ∈ sends, s ∈ d.sends) (distinct : (sends.map Send.ticket).Nodup) :
    Settles tasks 0 d (d.expireDue sends) := by
  induction sends generalizing d with
  | nil => exact .refl h
  | cons s sends ih =>
    rw [List.map_cons, List.nodup_cons] at distinct
    have member := present s List.mem_cons_self
    have others : ∀ t ∈ sends, t ∈ d.sends :=
      fun t inside => present t (List.mem_cons_of_mem _ inside)
    rw [expireDue]
    split
    · next deadline progress =>
      have waits : s.isOpen = true := by rw [Send.isOpen, progress]
      split
      · have first := expire_settles h member waits
        have rest := ih (d := (d.expire s).1) first.matched (fun t inside => by
          refine List.mem_filter.mpr ⟨others t inside, decide_eq_true fun same => distinct.1 ?_⟩
          exact same ▸ List.mem_map_of_mem inside) distinct.2
        exact first.trans rest
      · exact ih h others distinct.2
    · exact ih h others distinct.2

theorem advanceTo_settles (h : Sound tasks d) (time : Nat) : Settles tasks 0 d (d.advanceTo time) := by
  have settles : Settles tasks 0 { d with clock := time } (d.advanceTo time) :=
    expireDue_settles (d := { d with clock := time }) h.matched (fun _ member => member)
      h.matched.tickets
  exact settles.after rfl (List.Subset.refl _) rfl rfl (List.Subset.refl _) rfl

/-! ## Answers -/

/-- Answers reach tasks, which end or keep them: nothing but the tasks changes, and they
match the given table. -/
structure Delivers (tasks : Nat) (d : Dispatcher) (pending : List Pending)
    (out : Dispatcher × List Completion) : Prop where
  matched : Matched tasks d.nextId pending out.1.sends
  frame : out.1 = { d with sends := out.1.sends }
  tickets : out.1.tickets ⊆ d.tickets
  ended : ∀ c ∈ out.2, c.ticket < tasks ∧ c.ticket ∉ out.1.tickets

theorem Delivers.settles {out : Dispatcher × List Completion} (h : Delivers tasks d d.pending out) :
    Settles tasks 0 d out := by
  obtain ⟨e, completions⟩ := out
  obtain ⟨matched, frame, tickets, ended⟩ := h
  dsimp only at frame
  rw [frame] at tickets ended ⊢
  exact settles_of_sends matched tickets ended

variable {pending : List Pending}

theorem deliver_delivers (h : Matched tasks d.nextId pending d.sends) (ticket : Ticket)
    (answer : Outcome) : Delivers tasks d (struck ticket pending) (d.deliver ticket answer) := by
  rw [deliver]
  split
  · next none =>
    have absent : struck ticket pending = pending := by
      refine List.filter_eq_self.mpr fun p inside => decide_eq_true ?_
      obtain ⟨s, task, _, rfl⟩ := h.task_of_entry inside
      exact fun same => send?_eq_none none (same ▸ List.mem_map_of_mem task)
    exact ⟨absent.symm ▸ h, rfl, List.Subset.refl _, List.forall_mem_nil _⟩
  next s found =>
  obtain ⟨member, rfl⟩ := send?_eq_some found
  split
  · refine ⟨h.without s.ticket, rfl, tickets_without s.ticket d.sends, fun c inside => ?_⟩
    obtain rfl := List.mem_singleton.mp inside
    exact ⟨(h.given s member).1, not_mem_without s.ticket d.sends⟩
  · exact ⟨h.answered s.ticket answer, rfl, tickets_progressed _ _ d.sends, List.forall_mem_nil _⟩

/-- The same failure for every task of a table leaves no entry. -/
theorem deliverAll_delivers (failure : Failure) (h : Matched tasks d.nextId pending d.sends) :
    Delivers tasks d [] (d.deliverAll failure pending) := by
  -- on the entries that are left, which match the tasks after each delivery
  induction pending generalizing d with
  | nil => exact ⟨h, rfl, List.Subset.refl _, List.forall_mem_nil _⟩
  | cons p pending ih =>
    have first := deliver_delivers h p.ticket (.error failure)
    rw [h.struck_head] at first
    rw [deliverAll]
    generalize d.deliver p.ticket (.error failure) = out at first ⊢
    obtain ⟨e, completions⟩ := out
    obtain ⟨matched, frame, tickets, ended⟩ := first
    dsimp only at matched frame tickets ended ⊢
    have same : e.nextId = d.nextId := by rw [frame]
    have rest := ih (d := e) (same ▸ matched)
    refine ⟨same ▸ rest.matched, ?_, List.Subset.trans rest.tickets tickets, fun c inside => ?_⟩
    · rw [rest.frame, frame]
    · obtain early | late := List.mem_append.mp inside
      · exact ⟨(ended c early).1, fun again => (ended c early).2 (rest.tickets again)⟩
      · exact rest.ended c late

theorem failAll_settles (h : Sound tasks d) (reason : String) (failure : Failure) :
    Settles tasks 0 d (d.failAll reason failure).2 := by
  -- `e` is the dispatcher with the entries counted and not yet delivered
  let e : Dispatcher := { d with
    refusal := some (d.refusal.getD reason)
    pending := []
    stats := { d.stats with failed := d.stats.failed + d.pending.length } }
  have settles : Settles tasks 0 e (d.failAll reason failure).2 :=
    (deliverAll_delivers (d := e) failure h.matched).settles
  refine settles.after rfl (List.Subset.refl _) ?_ rfl (List.nil_subset _) rfl
  simp only [settled, e, List.length_nil]
  omega

theorem resolve_settles (h : Sound tasks d) (id : Nat) (body : Value) :
    Settles tasks (if (d.resolve id body).1 = .unknown then 0 else 1) d (d.resolve id body).2 := by
  rw [resolve]
  split
  · split
    · let e : Dispatcher := { d with stats := { d.stats with late := d.stats.late + 1 } }
      have settles : Settles tasks 0 e (e, []) := .refl h.matched
      exact settles.after rfl (List.Subset.refl _) rfl rfl (List.Subset.refl _) rfl
    · exact .refl h.matched
  · next p found =>
    have number : p.id = id := by simpa using List.find?_some found
    obtain ⟨s, member, waits, rfl⟩ := h.matched.task_of_entry (List.mem_of_find?_eq_some found)
    subst number
    let e : Dispatcher :=
      { d.removePending s.id with stats := { d.stats with resolved := d.stats.resolved + 1 } }
    -- the entry is struck by its number, the task is answered by its ticket
    have left : e.pending = struck s.ticket d.pending := h.matched.filter_id member
    have delivered := deliver_delivers (d := e) h.matched s.ticket (outcomeOf s.method body)
    rw [← left] at delivered
    refine delivered.settles.after rfl (List.Subset.refl _) ?_ ?_ (List.filter_subset_self _) rfl
    · have entry := h.matched.length_struck member waits
      simp only [settled, left]
      simp only [e]
      omega
    · exact Nat.add_right_comm d.stats.resolved 1 d.stats.late

/-! ## New tasks -/

theorem Sound.ticket_new (h : Sound tasks d) : tasks ∉ d.tickets := by
  intro member
  obtain ⟨s, inside, same⟩ := List.mem_map.mp member
  exact Nat.ne_of_lt (h.matched.given s inside).1 same

/-- A new task, which takes the next ticket, and no number or the next one. -/
theorem Sound.later (h : Sound tasks d) {nextId : Nat} (more : d.nextId ≤ nextId) :
    Sound (tasks + 1) { d with nextId } where
  matched := h.matched.later (Nat.le_succ _) more
  line w member := ⟨Nat.lt_succ_of_lt (h.line w member).1, (h.line w member).2⟩

theorem Sound.enroll (h : Sound tasks d) (method : String) (timeout : Nat) :
    Sound (tasks + 1) (d.enroll tasks method timeout) where
  matched := h.matched.append method timeout
  line w member := by
    obtain ⟨given, close⟩ := h.line w member
    refine ⟨Nat.lt_succ_of_lt given, fun item inside => ?_⟩
    rw [Dispatcher.tickets, Dispatcher.enroll, List.map_append] at inside
    obtain old | new := List.mem_append.mp inside
    · exact close item old
    · exact Nat.ne_of_lt given (List.mem_singleton.mp new)

theorem Sound.channel {ticket : Ticket} {item : Item} {channel : Channel} (h : Sound tasks d)
    (given : ticket < tasks) (close : item = .close → ticket ∉ d.tickets)
    (line : ∀ w ∈ channel.waiting, w ∈ d.channel.waiting ∨ w = (ticket, item)) :
    Sound tasks { d with channel } where
  matched := h.matched
  line w member := by
    obtain old | rfl := line w member
    · exact h.line w old
    · exact ⟨given, close⟩

theorem push_waiting (c : Channel) (ticket : Ticket) (item : Item) :
    ∀ w ∈ (c.push ticket item).2.waiting, w ∈ c.waiting ∨ w = (ticket, item) := by
  intro w member
  rw [Channel.push] at member
  split at member
  · exact .inl member
  split at member
  · exact .inl member
  · exact (List.mem_append.mp member).imp_right List.mem_singleton.mp

theorem enqueue_frame (d : Dispatcher) (ticket : Ticket) (item : Item) :
    ∃ channel completions, d.enqueue ticket item = ({ d with channel }, completions) ∧
      (∀ w ∈ channel.waiting, w ∈ d.channel.waiting ∨ w = (ticket, item)) ∧
      ∀ c ∈ completions, c.ticket = ticket := by
  have line := push_waiting d.channel ticket item
  unfold enqueue
  split
  · next channel pushed =>
    rw [pushed] at line
    exact ⟨channel, _, rfl, line, fun c member => List.mem_singleton.mp member ▸ rfl⟩
  · next channel pushed =>
    rw [pushed] at line
    exact ⟨channel, _, rfl, line, List.forall_mem_nil _⟩
  · split
    · exact ⟨d.channel, _, rfl, fun w => .inl, fun c member => List.mem_singleton.mp member ▸ rfl⟩
    · exact ⟨d.channel, _, rfl, fun w => .inl, fun c member => List.mem_singleton.mp member ▸ rfl⟩

theorem send?_enroll (h : Sound tasks d) (method : String) (timeout : Nat) :
    (d.enroll tasks method timeout).send? tasks =
      some ⟨tasks, d.nextId, method, timeout, .waiting none⟩ := by
  have absent : d.sends.find? (fun s => s.ticket = tasks) = none := by
    refine List.find?_eq_none.mpr fun s member => ?_
    simpa using Nat.ne_of_lt (h.matched.given s member).1
  rw [send?, enroll, List.find?_append, absent, Option.none_or, List.find?_cons_of_pos (by simp)]

theorem arrive_not_writerClosed {ticket : Ticket} {s : Send} (found : d.send? ticket = some s)
    (progress : s.progress = .waiting none) : ∀ c ∈ (d.arrive ticket).2, c.isWriterClosed = false := by
  simp only [arrive, found, progress]
  split
  · intro c member
    obtain rfl := List.mem_singleton.mp member
    rfl
  · exact List.forall_mem_nil _

/-- Giving up a new request at once leaves the tasks and the table as they were. -/
theorem cancel_enroll (h : Sound tasks d) (method : String) (timeout : Nat) :
    (d.enroll tasks method timeout).cancel tasks =
      { d with nextId := d.nextId + 1, channel := d.channel.withdraw tasks } := by
  have pending := h.matched.struck_new method
  have sends := h.matched.without_new ⟨tasks, d.nextId, method, timeout, .waiting none⟩ rfl
  rw [struck] at pending
  rw [without] at sends
  simp only [enroll, cancel, removeSend, pending, sends]

theorem tryPush_waiting (c : Channel) (item : Item) : (c.tryPush item).2.waiting = c.waiting := by
  rw [Channel.tryPush]
  split
  · rfl
  split <;> rfl

theorem tryEnqueue_settles (h : Sound tasks d) (frame : Value) :
    Settles tasks 0 d ((d.tryEnqueue frame).2, []) := by
  have line := tryPush_waiting d.channel (.message frame)
  rw [tryEnqueue]
  split
  · next channel pushed =>
    have settles : Settles tasks 0 { d with channel } ({ d with channel }, []) := .refl h.matched
    refine settles.after rfl ?_ rfl rfl (List.Subset.refl _) rfl
    rw [pushed] at line
    exact List.Subset.trans (List.Subset.refl _) (line ▸ List.Subset.refl _)
  · exact .refl h.matched
  · exact .refl h.matched

/-! ## Tasks that are given up -/

theorem cancel_pending (d : Dispatcher) (ticket : Ticket) :
    (d.cancel ticket).pending = struck ticket d.pending := rfl

theorem cancel_waiting (d : Dispatcher) (ticket : Ticket) :
    (d.cancel ticket).channel.waiting ⊆ d.channel.waiting :=
  List.filter_subset_self _

theorem Sound.cancel (h : Sound tasks d) (ticket : Ticket) : Sound tasks (d.cancel ticket) where
  matched := h.matched.without ticket
  line w member := by
    obtain ⟨given, close⟩ := h.line w (cancel_waiting d ticket member)
    exact ⟨given, fun item inside => close item (tickets_without ticket d.sends inside)⟩

/-- What is left when everyone in line is given up. -/
structure Strands (d : Dispatcher) (line : List (Ticket × Item)) (out : Dispatcher × List Completion) :
    Prop where
  matched : ∀ {tasks}, Matched tasks d.nextId d.pending d.sends →
    Matched tasks out.1.nextId out.1.pending out.1.sends
  nextId : out.1.nextId = d.nextId
  stats : out.1.stats = d.stats
  waiting : out.1.channel.waiting ⊆ d.channel.waiting
  pending : out.1.pending = d.pending.filter fun p => p.ticket ∉ line.map Prod.fst
  tickets : out.1.tickets ⊆ d.tickets
  gone : ∀ w ∈ line, w.1 ∉ out.1.tickets
  completions : out.2.map Completion.ticket = line.map Prod.fst
  closed : ∀ w ∈ line, w.2 ≠ .close → ∃ c ∈ out.2, c.ticket = w.1 ∧ c.isWriterClosed = true

theorem strand_strands (d : Dispatcher) (line : List (Ticket × Item)) :
    Strands d line (d.strand line) := by
  induction line generalizing d with
  | nil =>
    refine ⟨fun h => h, rfl, rfl, List.Subset.refl _, ?_, List.Subset.refl _, List.forall_mem_nil _, rfl, List.forall_mem_nil _⟩
    exact (List.filter_eq_self.mpr fun p _ => by simp).symm
  | cons w line ih =>
    obtain ⟨ticket, item⟩ := w
    have rest := ih (d.cancel ticket)
    refine ⟨fun h => rest.matched (h.without ticket), rest.nextId, rest.stats, ?_, ?_, ?_, ?_, ?_, ?_⟩
    · exact List.Subset.trans rest.waiting (cancel_waiting d ticket)
    · have pending := rest.pending
      rw [cancel_pending, struck, List.filter_filter] at pending
      refine pending.trans (List.filter_congr fun p _ => ?_)
      rw [← Bool.decide_and]
      exact decide_eq_decide.mpr (by simp [not_or, and_comm])
    · exact List.Subset.trans rest.tickets (tickets_without ticket d.sends)
    · intro w inside
      obtain rfl | later := List.mem_cons.mp inside
      · exact fun again => not_mem_without ticket d.sends (rest.tickets again)
      · exact rest.gone w later
    · exact congrArg (ticket :: ·) rest.completions
    · intro w inside request
      obtain rfl | later := List.mem_cons.mp inside
      · cases item with
        | close => exact absurd rfl request
        | message frame => exact ⟨_, List.mem_cons_self, rfl, rfl⟩
      · obtain ⟨c, member, own, closed⟩ := rest.closed w later request
        exact ⟨c, List.mem_cons_of_mem _ member, own, closed⟩

theorem dropWriter_strands (d : Dispatcher) :
    Strands { d with channel := d.channel.drop } d.channel.waiting d.dropWriter :=
  strand_strands _ _

end Dispatcher

end BlockDiscovery.Session
